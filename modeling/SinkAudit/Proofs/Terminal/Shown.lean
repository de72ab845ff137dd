import Mathlib.Data.List.Chain
import Mathlib.Data.List.Induction
import SinkAudit.Proofs.Terminal.Rendering

/-!
# What escaped text is shown as

Escaping doubles the backslashes before a tag, adds one that takes the tag for text, and doubles a single
backslash at the end of the text. Rendering takes half of the backslashes before a tag away again, but
drops any backslash before another bracket, and leaves those at the end. So some texts are not shown as
they were given. Texts that are joined after they were escaped are read as one, in which a tag may
begin in one text and end in another.

- `shownText`: what inert pieces are shown as; `renderFrom_of_inert`: they are rendered like that.
- `count_of_renderFrom`, `subset_of_render`: rendering adds no characters, and takes a bracket away
  for every tag that it applies.
- `IsKept`: a text that is shown as it is when it is escaped on its own.
- `joined`, `IsSeparate`: texts as the lines of one text, and whether no tag spans two of them.
- `shownText_of_kept`: kept texts that are separate are shown as they are.
-/

namespace SinkAudit.Markup

/-! ## The text of inert pieces -/

/-- The characters of a piece. -/
def Piece.raw : Piece → List Char
  | char c => [c]
  | tag slashes body => List.replicate slashes '\\' ++ bracketed body

/-- What inert pieces are shown as. Of the backslashes before a tag every second is left, and one that
stands right before another bracket is dropped. -/
def shownText : List Piece → List Char
  | [] => []
  | .char c :: rest =>
    if c = '\\' ∧ rest.head? = some (.char '[') then shownText rest else c :: shownText rest
  | .tag slashes body :: rest =>
    List.replicate (slashes / 2) '\\' ++ bracketed body ++ shownText rest

/-- A text is the characters of its pieces. -/
theorem flatMap_raw_pieces (cs : List Char) : (pieces cs).flatMap Piece.raw = cs := by
  induction cs using pieces.induct with
  | case1 cs n body after h ih =>
    obtain ⟨-, -, hcs⟩ := eq_of_escapedTag? h
    rw [pieces_of_some h, List.flatMap_cons, ih, Piece.raw, hcs, Nat.sub_zero, List.append_assoc]
  | case2 =>
    rw [pieces_nil]
    rfl
  | case3 c rest h ih =>
    rw [pieces_of_none h, List.flatMap_cons, ih]
    rfl

/-- Inert pieces are rendered as they are shown, under whatever styles. -/
theorem renderFrom_of_inert {ps : List Piece} (h : ∀ p ∈ ps, p.IsInert) :
    ∀ position styles, renderFrom position styles ps = .ok (shownText ps) := by
  induction ps with
  | nil => exact fun _ _ => rfl
  | cons p rest ih =>
    obtain ⟨hp, hrest⟩ := List.forall_mem_cons.mp h
    intro position styles
    cases p with
    | char c =>
      rw [renderFrom, ih hrest]
      rfl
    | tag slashes body =>
      have hodd : slashes % 2 = 1 := hp
      rw [renderFrom]
      simp only [hodd, if_true, ih hrest]
      rfl

/-! ## What rendering leaves of markup -/

/-- What rendering leaves of a piece: a character, unless it is a backslash that is dropped, and half
of the backslashes before a tag, with the tag itself if it is taken for text. -/
inductive Piece.Leaves : Piece → List Char → Prop
  | char (c : Char) : Leaves (.char c) [c]
  | dropped : Leaves (.char '\\') []
  | shown {slashes : Nat} (body : List Char) (h : slashes % 2 = 1) :
    Leaves (.tag slashes body) (List.replicate (slashes / 2) '\\' ++ bracketed body)
  | applied {slashes : Nat} (body : List Char) (h : ¬ slashes % 2 = 1) :
    Leaves (.tag slashes body) (List.replicate (slashes / 2) '\\')

/-- What is rendered is what is left of the first piece, and then what is left of the others. -/
theorem exists_leaves {p : Piece} {rest : List Piece} {position : Nat} {styles : List OpenStyle}
    {text : List Char} (h : renderFrom position styles (p :: rest) = .ok text) :
    ∃ next styles' left shown, p.Leaves left ∧ renderFrom next styles' rest = .ok shown
      ∧ text = left ++ shown := by
  cases p with
  | char c =>
    rw [renderFrom] at h
    obtain ⟨shown, hrest, rfl⟩ := exists_of_map_eq_ok h
    by_cases hdrop : c = '\\' ∧ rest.head? = some (.char '[')
    · obtain ⟨rfl, hhead⟩ := hdrop
      exact ⟨_, _, [], shown, .dropped, hrest, if_pos ⟨rfl, hhead⟩⟩
    · exact ⟨_, _, [c], shown, .char c, hrest, if_neg hdrop⟩
  | tag slashes body =>
    rw [renderFrom] at h
    by_cases hodd : slashes % 2 = 1
    · rw [if_pos hodd] at h
      obtain ⟨shown, hrest, rfl⟩ := exists_of_map_eq_ok h
      exact ⟨_, _, _, shown, .shown body hodd, hrest, rfl⟩
    -- an even number of backslashes leaves the tag to be applied, which may change the open styles
    · rw [if_neg hodd] at h
      cases happly : applyTag (position + slashes) styles body with
      | error e =>
        rw [happly] at h
        cases h
      | ok styles' =>
        rw [happly] at h
        obtain ⟨shown, hrest, rfl⟩ := exists_of_map_eq_ok h
        exact ⟨_, _, _, shown, .applied body hodd, hrest, rfl⟩

theorem count_slashes (n : Nat) : (List.replicate n '\\').count '[' = 0 :=
  List.count_replicate.trans (if_neg (by decide))

/-- A tag that is applied takes its bracket away, and nothing else takes a bracket. -/
theorem Piece.Leaves.count {p : Piece} {left : List Char} (h : p.Leaves left) :
    left.count '[' ≤ p.raw.count '['
      ∧ (left.count '[' = p.raw.count '[' → p.IsInert) := by
  cases h with
  | char c => exact ⟨Nat.le_refl _, fun _ => trivial⟩
  | dropped => exact ⟨by decide, fun _ => trivial⟩
  | shown body hodd =>
    rw [Piece.raw, List.count_append, List.count_append, count_slashes, count_slashes]
    exact ⟨Nat.le_refl _, fun _ => hodd⟩
  | applied body hodd =>
    have hbracket : (bracketed body).count '[' = (body ++ [']']).count '[' + 1 := List.count_cons_self
    rw [Piece.raw, List.count_append, count_slashes, count_slashes, hbracket]
    exact ⟨by omega, fun heq => by omega⟩

theorem Piece.Leaves.subset {p : Piece} {left : List Char} (h : p.Leaves left) : left ⊆ p.raw := by
  intro c hc
  have hslashes : ∀ n, c ∈ List.replicate (n / 2) '\\' → c ∈ List.replicate n '\\' := by
    intro n hmem
    obtain ⟨hne, rfl⟩ := List.mem_replicate.mp hmem
    exact List.mem_replicate.mpr ⟨by omega, rfl⟩
  cases h with
  | char d => exact hc
  | dropped => cases hc
  | shown body hodd => exact List.mem_append.mpr ((List.mem_append.mp hc).imp_left (hslashes _))
  | applied body hodd => exact List.mem_append_left _ (hslashes _ hc)

/-- Rendering adds no brackets, and if it takes none away, then all pieces are inert. -/
theorem count_of_renderFrom {ps : List Piece} :
    ∀ {position styles text}, renderFrom position styles ps = .ok text →
      text.count '[' ≤ (ps.flatMap Piece.raw).count '['
        ∧ (text.count '[' = (ps.flatMap Piece.raw).count '[' → ∀ p ∈ ps, p.IsInert) := by
  induction ps with
  | nil =>
    rintro position styles text ⟨⟩
    exact ⟨Nat.le_refl _, fun _ => nofun⟩
  | cons p rest ih =>
    intro position styles text h
    obtain ⟨next, styles', left, shown, hleft, hshown, rfl⟩ := exists_leaves h
    -- each piece leaves at most its own brackets, and fewer if it is a tag that is applied
    obtain ⟨hle, hinert⟩ := ih hshown
    obtain ⟨hleftle, hleftinert⟩ := hleft.count
    rw [List.flatMap_cons, List.count_append, List.count_append]
    refine ⟨by omega, fun heq => ?_⟩
    exact List.forall_mem_cons.mpr ⟨hleftinert (by omega), hinert (by omega)⟩

/-- Whatever is shown stands in the markup. -/
theorem subset_of_renderFrom {ps : List Piece} :
    ∀ {position styles text}, renderFrom position styles ps = .ok text →
      text ⊆ ps.flatMap Piece.raw := by
  induction ps with
  | nil =>
    rintro position styles text ⟨⟩
    exact List.nil_subset _
  | cons p rest ih =>
    intro position styles text h
    obtain ⟨next, styles', left, shown, hleft, hshown, rfl⟩ := exists_leaves h
    rw [List.flatMap_cons]
    exact List.append_subset.mpr ⟨List.subset_append_of_subset_left _ hleft.subset,
      List.subset_append_of_subset_right _ (ih hshown)⟩

theorem subset_of_render {markup text : List Char} (h : render markup = .ok text) :
    text ⊆ markup := by
  have hsubset := subset_of_renderFrom h
  rwa [flatMap_raw_pieces] at hsubset

/-! ## Texts that are kept -/

/-- Is a piece shown before another? A backslash is not before a bracket. -/
def Piece.IsShownBefore (p q : Piece) : Prop := ¬ (p = .char '\\' ∧ q = .char '[')

instance : DecidableRel Piece.IsShownBefore := fun p q =>
  inferInstanceAs (Decidable (¬ (p = .char '\\' ∧ q = .char '[')))

/-- Is a text shown as it is when it is escaped? No backslash may stand right before a bracket that
begins no tag, nor alone at the end. -/
def IsKept (cs : List Char) : Prop :=
  (pieces cs).IsChain Piece.IsShownBefore ∧ endsInSingleSlash cs = false

instance (cs : List Char) : Decidable (IsKept cs) :=
  inferInstanceAs (Decidable (_ ∧ _))

/-- Texts as the lines of one text. -/
def joined (texts : List (List Char)) : List Char := List.intercalate ['\n'] texts

/-- Does every tag of the joined texts stand in one of them? -/
def IsSeparate (texts : List (List Char)) : Prop :=
  ∀ slashes body, .tag slashes body ∈ pieces (joined texts) → '\n' ∉ body

instance (texts : List (List Char)) : Decidable (IsSeparate texts) :=
  let isWithinLine : Piece → Bool
    | .char _ => true
    | .tag _ body => !body.contains '\n'
  decidable_of_iff ((pieces (joined texts)).all isWithinLine = true) <| by
    rw [List.all_eq_true]
    constructor
    · intro h slashes body hmem
      simpa [isWithinLine] using h _ hmem
    · intro h p hp
      cases p with
      | char c => rfl
      | tag slashes body => simpa [isWithinLine] using h slashes body hp

theorem isSeparate_nil : IsSeparate [] := by
  intro slashes body hmem
  rw [joined, List.intercalate_nil, pieces_nil] at hmem
  cases hmem

theorem joined_singleton (text : List Char) : joined [text] = text := List.intercalate_singleton

theorem joined_cons_cons (text next : List Char) (rest : List (List Char)) :
    joined (text :: next :: rest) = text ++ '\n' :: joined (next :: rest) := by
  rw [joined, List.intercalate_cons_cons, List.append_assoc]
  rfl

theorem raw_subset_of_mem_pieces {cs : List Char} {p : Piece} (h : p ∈ pieces cs) : p.raw ⊆ cs := by
  intro c hc
  rw [← flatMap_raw_pieces cs]
  exact List.mem_flatMap.mpr ⟨p, h, hc⟩

theorem subset_of_tag_mem_pieces {slashes : Nat} {body cs : List Char}
    (h : .tag slashes body ∈ pieces cs) : body ⊆ cs := by
  intro c hc
  refine raw_subset_of_mem_pieces h (List.mem_append_right _ ?_)
  rw [bracketed, List.cons_append]
  exact List.mem_cons_of_mem _ (List.mem_append_left _ hc)

theorem isSeparate_singleton {text : List Char} (h : '\n' ∉ text) : IsSeparate [text] := by
  intro slashes body hmem hspan
  rw [joined_singleton] at hmem
  exact h (subset_of_tag_mem_pieces hmem hspan)

/-- A tag without a line feed ends before the first one, so that it stands in the line that it
begins in. -/
theorem escapedTag?_ne_none_of_append_lineFeed {cs rest body after : List Char} {n : Nat}
    (h : escapedTag? 0 (cs ++ '\n' :: rest) = some (n, body, after)) (hbody : '\n' ∉ body) :
    escapedTag? 0 cs ≠ none := by
  obtain ⟨-, hisbody, heq⟩ := eq_of_escapedTag? h
  rw [Nat.sub_zero, ← List.append_assoc] at heq
  have hfree : '\n' ∉ List.replicate n '\\' ++ bracketed body := by
    simpa [bracketed] using hbody
  have htag : ∀ after', escapedTag? 0 (List.replicate n '\\' ++ bracketed body ++ after') ≠ none := by
    intro after' hnone
    rw [List.append_assoc, escapedTag?_replicate hisbody] at hnone
    cases hnone
  -- the tag ends before the line feed, or else it would hold it
  rcases List.append_eq_append_iff.mp heq with ⟨middle, hmiddle, hrest⟩ | ⟨after', hcs, -⟩
  · cases middle with
    | nil =>
      rw [List.append_nil] at hmiddle
      rw [← hmiddle, ← List.append_nil (_ ++ bracketed body)]
      exact htag []
    | cons d middle =>
      rw [List.cons_append, List.cons.injEq] at hrest
      rw [hmiddle, ← hrest.1] at hfree
      exact absurd (List.mem_append_right _ List.mem_cons_self) hfree
  · rw [hcs]
    exact htag after'

/-- If no tag spans a line feed, the pieces of two lines are those of each. -/
theorem pieces_append_lineFeed {cs rest : List Char} (hline : '\n' ∉ cs)
    (h : ∀ slashes body, .tag slashes body ∈ pieces (cs ++ '\n' :: rest) → '\n' ∉ body) :
    pieces (cs ++ '\n' :: rest) = pieces cs ++ .char '\n' :: pieces rest := by
  induction cs using pieces.induct with
  | case1 cs n body after hsome ih =>
    obtain ⟨-, -, hcs⟩ := eq_of_escapedTag? hsome
    have hafter : '\n' ∉ after := by
      intro hmem
      rw [hcs] at hline
      exact hline (List.mem_append_right _ (List.mem_append_right _ hmem))
    rw [pieces_append_of_some hsome] at h
    rw [pieces_append_of_some hsome, pieces_of_some hsome,
      ih hafter fun slashes body hmem => h slashes body (List.mem_cons_of_mem _ hmem)]
    rfl
  | case2 =>
    rw [List.nil_append, pieces_cons (by decide) (by decide), pieces_nil]
    rfl
  | case3 c cs hnone ih =>
    -- no tag starts here with the line feed behind, for it would have to reach over it
    have hnone' : escapedTag? 0 (c :: (cs ++ '\n' :: rest)) = none := by
      rw [Option.eq_none_iff_forall_not_mem]
      rintro ⟨n, body, after⟩ hsome
      have hspan : '\n' ∉ body := by
        refine h n body ?_
        rw [List.cons_append, pieces_of_some hsome]
        exact List.mem_cons_self
      rw [← List.cons_append] at hsome
      exact escapedTag?_ne_none_of_append_lineFeed hsome hspan hnone
    have htail : '\n' ∉ cs := fun hmem => hline (List.mem_cons_of_mem _ hmem)
    rw [List.cons_append, pieces_of_none hnone'] at h ⊢
    rw [pieces_of_none hnone, ih htail fun slashes body hmem =>
      h slashes body (List.mem_cons_of_mem _ hmem)]
    rfl

/-! ## Backslashes at the end -/

theorem endsInSingleSlash_concat (cs : List Char) (c : Char) :
    endsInSingleSlash (cs ++ [c]) = (c == '\\' && cs.getLast? != some '\\') := by
  rw [endsInSingleSlash, List.reverse_append, ← List.head?_reverse]
  cases cs.reverse with
  | nil => by_cases hc : c = '\\' <;> simp [hc]
  | cons d rest =>
    by_cases hc : c = '\\'
    · by_cases hd : d = '\\' <;> simp [hc, hd]
    · simp [hc]

/-- A text without backslashes is kept. -/
theorem isKept_of_not_mem {cs : List Char} (h : '\\' ∉ cs) : IsKept cs := by
  constructor
  · refine List.Pairwise.isChain (List.pairwise_of_forall_mem_list fun p hp q _ => ?_)
    rintro ⟨rfl, -⟩
    exact h (raw_subset_of_mem_pieces hp List.mem_cons_self)
  · cases cs using List.reverseRecOn with
    | nil => rfl
    | append_singleton cs c =>
      have hc : c ≠ '\\' := fun heq => h (heq ▸ List.mem_append_right _ List.mem_cons_self)
      rw [endsInSingleSlash_concat, beq_false_of_ne hc, Bool.false_and]

/-- Escaping leaves the last character of a text. -/
theorem getLast?_flatMap_escape (ps : List Piece) :
    (ps.flatMap Piece.escape).getLast? = (ps.flatMap Piece.raw).getLast? := by
  induction ps using List.reverseRecOn with
  | nil => rfl
  | append_singleton ps p _ =>
    rw [List.flatMap_append, List.flatMap_append, List.flatMap_singleton, List.flatMap_singleton]
    cases p with
    | char c => rw [Piece.escape, Piece.raw, List.getLast?_concat, List.getLast?_concat]
    | tag slashes body =>
      rw [Piece.escape, Piece.raw, bracketed, ← List.append_assoc, ← List.append_assoc,
        ← List.append_assoc, ← List.append_assoc, List.getLast?_concat, List.getLast?_concat]

theorem endsInSingleSlash_escapeTags (cs : List Char) :
    endsInSingleSlash (escapeTags cs) = endsInSingleSlash cs := by
  conv_rhs => rw [← flatMap_raw_pieces cs]
  rw [escapeTags]
  generalize pieces cs = ps
  -- the induction is from the end, since only the last piece decides
  cases ps using List.reverseRecOn with
  | nil => rfl
  | append_singleton ps p =>
    rw [List.flatMap_append, List.flatMap_append, List.flatMap_singleton, List.flatMap_singleton]
    cases p with
    | char c =>
      rw [Piece.escape, Piece.raw, endsInSingleSlash_concat, endsInSingleSlash_concat,
        getLast?_flatMap_escape]
    | tag slashes body =>
      rw [Piece.escape, Piece.raw, bracketed, ← List.append_assoc, ← List.append_assoc,
        ← List.append_assoc, ← List.append_assoc, endsInSingleSlash_concat,
        endsInSingleSlash_concat]
      rfl

/-- How many backslashes are added at the end of a text. -/
def addedSlashes (cs : List Char) : Nat := if endsInSingleSlash cs then 1 else 0

theorem escape_eq (cs : List Char) :
    escape cs = escapeTags cs ++ List.replicate (addedSlashes cs) '\\' := by
  show (if endsInSingleSlash (escapeTags cs) then escapeTags cs ++ ['\\'] else escapeTags cs) = _
  rw [endsInSingleSlash_escapeTags, addedSlashes]
  split
  · rfl
  · exact (List.append_nil _).symm

/-- Escaping adds nothing but backslashes. -/
theorem mem_of_mem_escape {cs : List Char} {c : Char} (h : c ∈ escape cs) : c ∈ cs ∨ c = '\\' := by
  rw [escape_eq] at h
  rcases List.mem_append.mp h with h | h
  · obtain ⟨p, hp, hc⟩ := List.mem_flatMap.mp h
    have hraw := raw_subset_of_mem_pieces hp
    cases p with
    | char d => exact .inl (hraw hc)
    | tag slashes body =>
      rcases List.mem_append.mp hc with hc | hc
      · exact .inr (List.eq_of_mem_replicate hc)
      · exact .inl (hraw (List.mem_append_right _ hc))
  · exact .inr (List.eq_of_mem_replicate h)

theorem escape_of_isKept {cs : List Char} (h : IsKept cs) : escape cs = escapeTags cs := by
  rw [escape_eq, addedSlashes, h.2, if_neg (by decide)]
  exact List.append_nil _

/-- Escaping leaves the first bracket of a line and of the lines behind it where they are. -/
theorem firstBracket?_joined_escape (texts : List (List Char)) :
    firstBracket? (joined (texts.map escape)) = firstBracket? (joined texts) := by
  induction texts with
  | nil => rfl
  | cons text rest ih =>
    cases rest with
    | nil => rw [List.map_singleton, joined_singleton, joined_singleton, firstBracket?_escape]
    | cons next rest =>
      rw [List.map_cons] at ih
      rw [List.map_cons, List.map_cons, joined_cons_cons, joined_cons_cons, firstBracket?_append,
        firstBracket?_append, firstBracket?_cons_of_inner (by decide),
        firstBracket?_cons_of_inner (by decide), firstBracket?_escape, ih]

/-! ## Kept texts are shown as they are -/

/-- Pieces among which no backslash is dropped are shown as they are once they are escaped, unless a
bracket follows. -/
theorem shownText_guarded_append {ps qs : List Piece} (h : ps.IsChain Piece.IsShownBefore)
    (hqs : qs.head? ≠ some (.char '[')) :
    shownText (ps.map Piece.guarded ++ qs) = ps.flatMap Piece.raw ++ shownText qs := by
  induction ps with
  | nil => rfl
  | cons p rest ih =>
    obtain ⟨hnext, hrest⟩ := List.isChain_cons.mp h
    rw [List.flatMap_cons, List.append_assoc, ← ih hrest, List.map_cons, List.cons_append]
    cases p with
    | char c =>
      -- a backslash is shown unless a bracket comes next, which the chain excludes
      have hkept : ¬ (c = '\\'
          ∧ (rest.map Piece.guarded ++ qs).head? = some (.char '[')) := by
        rintro ⟨rfl, hhead⟩
        cases rest with
        | nil => exact hqs hhead
        | cons q rest =>
          cases q with
          | tag slashes body => cases hhead
          | char d =>
            cases hhead
            exact hnext _ rfl ⟨rfl, rfl⟩
      exact if_neg hkept
    | tag slashes body =>
      have hhalf : (2 * slashes + 1) / 2 = slashes := by omega
      rw [Piece.guarded, shownText, hhalf]
      rfl

/-- The first of several lines is read on its own. -/
theorem IsSeparate.cons_cons {text next : List Char} {rest : List (List Char)}
    (h : IsSeparate (text :: next :: rest)) (hline : '\n' ∉ text) :
    pieces (joined (text :: next :: rest))
        = pieces text ++ .char '\n' :: pieces (joined (next :: rest))
      ∧ IsSeparate (next :: rest) := by
  have hpieces : pieces (joined (text :: next :: rest))
      = pieces text ++ .char '\n' :: pieces (joined (next :: rest)) := by
    rw [IsSeparate, joined_cons_cons] at h
    rw [joined_cons_cons, pieces_append_lineFeed hline h]
  refine ⟨hpieces, fun slashes body hmem => h slashes body ?_⟩
  rw [hpieces]
  exact List.mem_append_right _ (List.mem_cons_of_mem _ hmem)

/-- Kept texts whose tags do not span lines are escaped as one text, in which no backslash is
dropped. -/
theorem joined_escape_of_kept {texts : List (List Char)} (hlines : ∀ text ∈ texts, '\n' ∉ text)
    (hkept : ∀ text ∈ texts, IsKept text) (hseparate : IsSeparate texts) :
    joined (texts.map escape) = escapeTags (joined texts)
      ∧ (pieces (joined texts)).IsChain Piece.IsShownBefore := by
  induction texts with
  | nil =>
    have hnil : pieces (joined []) = [] := pieces_nil
    refine ⟨?_, by rw [hnil]; exact .nil⟩
    rw [escapeTags, hnil]
    rfl
  | cons text rest ih =>
    obtain ⟨htext, hrest⟩ := List.forall_mem_cons.mp hkept
    cases rest with
    | nil =>
      rw [List.map_singleton, joined_singleton, joined_singleton]
      exact ⟨escape_of_isKept htext, htext.1⟩
    | cons next rest =>
      obtain ⟨hline, hlines⟩ := List.forall_mem_cons.mp hlines
      -- no tag reaches over the line feed between two texts, so that the pieces are those of each text
      obtain ⟨hpieces, hseparate⟩ := hseparate.cons_cons hline
      obtain ⟨hescape, hchain⟩ := ih hlines hrest hseparate
      rw [List.map_cons] at hescape
      constructor
      · rw [escapeTags, hpieces, List.flatMap_append, List.flatMap_cons, List.map_cons,
          List.map_cons, joined_cons_cons, hescape, escape_of_isKept htext, escapeTags, escapeTags]
        rfl
      · rw [hpieces]
        refine List.isChain_append.mpr ⟨htext.1, List.isChain_cons.mpr ⟨?_, hchain⟩, ?_⟩
        · rintro q - ⟨hslash, -⟩
          cases hslash
        · rintro p - q hq ⟨-, hopen⟩
          rw [hopen] at hq
          cases hq

/-- Kept texts whose tags do not span lines are read as inert pieces, and shown as they are. -/
theorem shownText_of_kept {texts : List (List Char)} (hlines : ∀ text ∈ texts, '\n' ∉ text)
    (hkept : ∀ text ∈ texts, IsKept text) (hseparate : IsSeparate texts) :
    (∀ p ∈ pieces (joined (texts.map escape)), p.IsInert)
      ∧ shownText (pieces (joined (texts.map escape))) = joined texts := by
  obtain ⟨hescape, hchain⟩ := joined_escape_of_kept hlines hkept hseparate
  have hpieces : pieces (joined (texts.map escape)) = (pieces (joined texts)).map Piece.guarded := by
    have := pieces_escapeTags (joined texts) detached_nil
    rwa [List.append_nil, pieces_nil, List.append_nil, ← hescape] at this
  rw [hpieces]
  constructor
  · intro p hp
    obtain ⟨q, -, rfl⟩ := List.mem_map.mp hp
    exact q.isInert_guarded
  · have hnone : ([] : List Piece).head? ≠ some (.char '[') := nofun
    have hshown := shownText_guarded_append hchain hnone
    rwa [List.append_nil, flatMap_raw_pieces, shownText, List.append_nil] at hshown

end SinkAudit.Markup
