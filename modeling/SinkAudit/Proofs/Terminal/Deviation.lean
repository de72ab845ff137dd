import SinkAudit.Proofs.Terminal.Shown

/-!
# How shown text may differ from given text

Escaped texts that are joined may be shown otherwise than they were given. If the brackets are all
there, then no tag was applied, and the two texts can be compared from the left: where they first
differ a backslash was dropped before a bracket, or one was added at the end of a line. Neither is
made good by what follows.

Rendering is not injective: the markup `\[` and the markup `[` are both shown as a bracket. What a text
loses in one place it might seem to get back in another, where a backslash is doubled, so that counting
characters proves nothing. The comparison from the left does: the first difference stays one.

- `Deviates`: one text differs from another like that.
- `Follows`: what may follow a line.
- `shown_line_cases`: an escaped line is shown as it is, or deviates.
- `render_joined_iff`: joined texts are shown as they are exactly if each is kept, and no tag spans
  two of them.
- `eq_or_deviates_of_render`: else they lose a bracket, or deviate.
-/

namespace SinkAudit.Markup

/-- Two texts agree up to a place where the one has a bracket for a backslash of the other, or a
backslash where a line of the other ends. -/
inductive Deviates : List Char → List Char → Prop
  | dropped (start shown given : List Char) :
    Deviates (start ++ '[' :: shown) (start ++ '\\' :: given)
  | doubled (start shown : List Char) {given : List Char} (h : ∀ c ∈ given.head?, c = '\n') :
    Deviates (start ++ '\\' :: shown) (start ++ given)

theorem Deviates.append_left {shown given : List Char} (h : Deviates shown given)
    (start : List Char) : Deviates (start ++ shown) (start ++ given) := by
  cases h with
  | dropped middle shown given =>
    rw [← List.append_assoc, ← List.append_assoc]
    exact .dropped _ _ _
  | doubled middle shown h =>
    rw [← List.append_assoc, ← List.append_assoc]
    exact .doubled _ _ h

theorem Deviates.ne {shown given : List Char} (h : Deviates shown given) : shown ≠ given := by
  cases h with
  | dropped start shown given =>
    intro heq
    have := List.append_cancel_left heq
    rw [List.cons.injEq] at this
    exact absurd this.1 (by decide)
  | @doubled start shown given h =>
    intro heq
    have heq := List.append_cancel_left heq
    have := h '\\' (by rw [← heq]; rfl)
    exact absurd this (by decide)

/-! ## What follows a line -/

/-- What follows a line of escaped and of given text: nothing, or lines whose first bracket is the
same. -/
inductive Follows : List Char → List Char → Prop
  | nil : Follows [] []
  | line {escaped given : List Char} (h : firstBracket? escaped = firstBracket? given) :
    Follows ('\n' :: escaped) ('\n' :: given)

namespace Follows

variable {escaped given : List Char}

theorem firstBracket?_eq (h : Follows escaped given) :
    firstBracket? escaped = firstBracket? given := by
  cases h with
  | nil => rfl
  | line h => rw [firstBracket?_cons_of_inner (by decide), firstBracket?_cons_of_inner (by decide), h]

theorem escapedTag?_escaped (h : Follows escaped given) (n : Nat) :
    escapedTag? n escaped = none := by
  cases h <;> rfl

theorem escapedTag?_given (h : Follows escaped given) (n : Nat) : escapedTag? n given = none := by
  cases h <;> rfl

theorem head?_escaped (h : Follows escaped given) : ∀ c ∈ escaped.head?, c = '\n' := by
  cases h with
  | nil => nofun
  | line h => rintro c ⟨⟩; rfl

theorem head?_given (h : Follows escaped given) : ∀ c ∈ given.head?, c = '\n' := by
  cases h with
  | nil => nofun
  | line h => rintro c ⟨⟩; rfl

end Follows

theorem head?_of_head?_pieces {cs : List Char} {c : Char}
    (h : (pieces cs).head? = some (.char c)) : cs.head? = some c := by
  cases cs with
  | nil =>
    rw [pieces_nil] at h
    cases h
  | cons d rest =>
    cases htag : escapedTag? 0 (d :: rest) with
    | none =>
      rw [pieces_of_none htag] at h
      cases h
      rfl
    | some found =>
      rw [pieces_of_some htag] at h
      cases h

/-- Before a line feed or the end no tag begins, however many backslashes there are. -/
theorem escapedTag?_slashes {tail : List Char} (h : ∀ n, escapedTag? n tail = none) (k : Nat) :
    ∀ n, escapedTag? n (List.replicate k '\\' ++ tail) = none := by
  induction k with
  | zero => exact h
  | succ k ih => exact fun n => ih (n + 1)

/-- Backslashes before the end of a line are not followed by a bracket. -/
theorem slashes_ne_of_lineEnd {tail : List Char} (htail : ∀ c ∈ tail.head?, c = '\n') :
    ∀ (m n : Nat) (after : List Char),
      List.replicate m '\\' ++ tail ≠ List.replicate n '\\' ++ '[' :: after
  | 0, 0, after, heq => by
    have htail : '[' = '\n' := htail '[' (by rw [← List.nil_append tail]; exact heq ▸ rfl)
    exact absurd htail (by decide)
  | 0, n + 1, after, heq => by
    have htail : '\\' = '\n' := htail '\\' (by rw [← List.nil_append tail]; exact heq ▸ rfl)
    exact absurd htail (by decide)
  | m + 1, 0, after, heq => by
    rw [List.replicate_succ, List.cons_append] at heq
    exact absurd (List.cons.inj heq).1 (by decide)
  | m + 1, n + 1, after, heq => by
    rw [List.replicate_succ, List.replicate_succ, List.cons_append, List.cons_append] at heq
    exact slashes_ne_of_lineEnd htail m n after (List.cons.inj heq).2

/-- The backslashes before a bracket that begins no tag are not escaped. -/
theorem exists_eq_of_escapeTags_eq {tail after : List Char} (htail : ∀ c ∈ tail.head?, c = '\n')
    {added : Nat} : ∀ {cs : List Char} {n k : Nat}, escapedTag? n cs = none →
      escapeTags cs ++ (List.replicate added '\\' ++ tail)
          = List.replicate k '\\' ++ '[' :: after →
      ∃ rest, cs = List.replicate k '\\' ++ '[' :: rest
  | [], n, k, _, heq => by
    rw [escapeTags, pieces_nil, List.flatMap_nil, List.nil_append] at heq
    exact absurd heq (slashes_ne_of_lineEnd htail added k after)
  | c :: cs, n, 0, hnone, heq => by
    rw [escapeTags_of_none (escapedTag?_eq_none_iff.mp hnone), List.cons_append] at heq
    obtain ⟨rfl, -⟩ := List.cons.inj heq
    exact ⟨cs, rfl⟩
  | c :: cs, n, k + 1, hnone, heq => by
    rw [escapeTags_of_none (escapedTag?_eq_none_iff.mp hnone), List.cons_append,
      List.replicate_succ, List.cons_append] at heq
    obtain ⟨rfl, hrest⟩ := List.cons.inj heq
    have hnone : escapedTag? (n + 1) cs = none := hnone
    obtain ⟨rest, rfl⟩ := exists_eq_of_escapeTags_eq htail hnone hrest
    exact ⟨rest, rfl⟩

/-- Where no tag begins in a text nor in what it is escaped to with the lines behind it, none
begins in the given text with the lines behind it. -/
theorem escapedTag?_append_given {escaped given : List Char} (hfollows : Follows escaped given) :
    ∀ {cs : List Char} {n : Nat}, escapedTag? n cs = none →
      escapedTag? n (escapeTags cs ++ escaped) = none → escapedTag? n (cs ++ given) = none
  | [], n, _, _ => hfollows.escapedTag?_given n
  | c :: cs, n, hnone, hescaped => by
    rw [escapeTags_of_none (escapedTag?_eq_none_iff.mp hnone), List.cons_append] at hescaped
    rw [List.cons_append]
    by_cases hslash : c = '\\'
    · subst hslash
      exact escapedTag?_append_given hfollows (n := n + 1) hnone hescaped
    · by_cases hopen : c = '['
      · subst hopen
        rw [escapedTag?, Option.map_eq_none_iff, tagAfter?_eq_none_iff] at hescaped ⊢
        intro d hd hstart hclose
        have hfirst : firstBracket? (escapeTags cs ++ escaped) = firstBracket? (cs ++ given) := by
          rw [firstBracket?_append, firstBracket?_append, firstBracket?_escapeTags,
            hfollows.firstBracket?_eq]
        refine hescaped d ?_ hstart (hfirst.trans hclose)
        -- what a tag may begin with is the same in both texts
        cases cs with
        | nil =>
          rw [hfollows.head?_given d hd] at hstart
          exact absurd hstart (by decide)
        | cons e rest =>
          cases hd
          rw [escapeTags_of_none (escapedTag?_cons_of_isTagStart hstart rest 0)]
          rfl
      · exact escapedTag?_cons_of_other hslash hopen _ n

/-! ## One line -/

/-- A backslash before a bracket that begins no tag is not shown. -/
theorem deviates_of_dropped {ps : List Piece} (h : ps.head? = some (.char '['))
    (given : List Char) : Deviates (shownText (.char '\\' :: ps)) ('\\' :: given) := by
  obtain ⟨rest, rfl⟩ := List.head?_eq_some_iff.mp h
  have hbracket : ¬ ('[' = '\\' ∧ rest.head? = some (.char '[')) := fun h => absurd h.1 (by decide)
  rw [shownText, if_pos ⟨rfl, rfl⟩, shownText, if_neg hbracket]
  exact .dropped [] _ _

section Line

variable {escaped given : List Char} (hfollows : Follows escaped given) (added : Nat)

include hfollows

/-- A backslash that was added at the end of a line is shown. -/
theorem deviates_of_added :
    Deviates (shownText (pieces (List.replicate (added + 1) '\\' ++ escaped))) given := by
  have hnone : escapedTag? 0 ('\\' :: (List.replicate added '\\' ++ escaped)) = none :=
    escapedTag?_slashes hfollows.escapedTag?_escaped (added + 1) 0
  have hkept : ¬ ('\\' = '\\' ∧ (pieces (List.replicate added '\\' ++ escaped)).head?
      = some (.char '[')) := by
    rintro ⟨-, hhead⟩
    obtain ⟨after, hafter⟩ := List.head?_eq_some_iff.mp (head?_of_head?_pieces hhead)
    exact slashes_ne_of_lineEnd hfollows.head?_escaped added 0 after hafter
  rw [List.replicate_succ, List.cons_append, pieces_of_none hnone, shownText, if_neg hkept]
  exact .doubled [] _ hfollows.head?_given

/-- A tag that comes up over the end of a line has backslashes before it if it is inert, and at least
one of them is not shown. -/
theorem deviates_of_spanning {cs body after : List Char} {k : Nat} (hnone : escapedTag? 0 cs = none)
    (htag : escapedTag? 0 (escapeTags cs ++ (List.replicate added '\\' ++ escaped))
      = some (k, body, after)) (hodd : k % 2 = 1) :
    Deviates (shownText (.tag k body :: pieces after)) (cs ++ given) := by
  obtain ⟨-, -, heq⟩ := eq_of_escapedTag? htag
  rw [Nat.sub_zero, bracketed, List.cons_append, List.cons_append] at heq
  obtain ⟨tail, rfl⟩ := exists_eq_of_escapeTags_eq hfollows.head?_escaped hnone heq
  obtain ⟨m, hm⟩ : ∃ m, k = k / 2 + (m + 1) := ⟨k - k / 2 - 1, by omega⟩
  have hslashes : List.replicate k '\\'
      = List.replicate (k / 2) '\\' ++ '\\' :: List.replicate m '\\' := by
    rw [← List.replicate_succ, ← List.replicate_add, ← hm]
  rw [shownText, hslashes, bracketed]
  simp only [List.append_assoc, List.cons_append]
  exact .dropped _ _ _

/-- An escaped line, with backslashes that may have been added at its end and the lines behind it, is
shown as it is given, or deviates. -/
theorem shown_line_cases (cs : List Char)
    (hinert : ∀ p ∈ pieces (escapeTags cs ++ (List.replicate added '\\' ++ escaped)), p.IsInert) :
    Deviates (shownText (pieces (escapeTags cs ++ (List.replicate added '\\' ++ escaped))))
        (cs ++ given)
      ∨ added = 0
        ∧ (pieces cs).IsChain Piece.IsShownBefore
        ∧ pieces (cs ++ given) = pieces cs ++ pieces given
        ∧ pieces (escapeTags cs ++ escaped) = (pieces cs).map Piece.guarded ++ pieces escaped := by
  induction cs using pieces.induct with
  | case1 cs n body after hsome ih =>
    rw [pieces_escapeTags_of_some hsome] at hinert ⊢
    rw [pieces_escapeTags_of_some hsome, pieces_append_of_some hsome, pieces_of_some hsome]
    rcases ih (List.forall_mem_cons.mp hinert).2 with hdeviates | ⟨hadded, hchain, hsplit, hescaped⟩
    · left
      have hhalf : (2 * n + 1) / 2 = n := by omega
      have hline : cs ++ given
          = (List.replicate n '\\' ++ bracketed body) ++ (after ++ given) := by
        obtain ⟨-, -, hcs⟩ := eq_of_escapedTag? hsome
        rw [hcs, Nat.sub_zero]
        simp only [List.append_assoc]
      rw [shownText, hhalf, hline]
      exact hdeviates.append_left _
    · right
      refine ⟨hadded, List.isChain_cons.mpr ⟨?_, hchain⟩, ?_, ?_⟩
      · rintro q - ⟨hslash, -⟩
        cases hslash
      · rw [hsplit]
        rfl
      · rw [hescaped]
        rfl
  | case2 =>
    rw [escapeTags, pieces_nil, List.flatMap_nil, List.nil_append]
    cases added with
    | zero => exact .inr ⟨rfl, .nil, rfl, rfl⟩
    | succ added => exact .inl (deviates_of_added hfollows added)
  | case3 c rest hnone ih =>
    -- no tag begins here in the line, but one may in what it is escaped to and the lines behind it
    have hcons : ∀ tail, escapeTags (c :: rest) ++ tail = c :: (escapeTags rest ++ tail) := by
      intro tail
      rw [escapeTags_of_none hnone]
      rfl
    cases htag : escapedTag? 0
        (escapeTags (c :: rest) ++ (List.replicate added '\\' ++ escaped)) with
    | some found =>
      obtain ⟨k, body, after⟩ := found
      rw [pieces_of_some htag] at hinert ⊢
      exact .inl (deviates_of_spanning hfollows added hnone htag (hinert _ List.mem_cons_self))
    | none =>
      rw [hcons] at htag hinert ⊢
      rw [pieces_of_none htag] at hinert ⊢
      by_cases hdrop : c = '\\'
          ∧ (pieces (escapeTags rest ++ (List.replicate added '\\' ++ escaped))).head?
            = some (.char '[')
      · obtain ⟨rfl, hhead⟩ := hdrop
        exact .inl (deviates_of_dropped hhead _)
      · rcases ih (List.forall_mem_cons.mp hinert).2 with
          hdeviates | ⟨rfl, hchain, hsplit, hescaped⟩
        · left
          rw [shownText, if_neg hdrop]
          exact hdeviates.append_left [c]
        · right
          rw [List.replicate_zero, List.nil_append] at htag hdrop
          have hgiven : escapedTag? 0 (c :: (rest ++ given)) = none :=
            escapedTag?_append_given hfollows hnone (by rwa [hcons])
          rw [hcons, pieces_of_none htag, pieces_of_none hnone, List.cons_append,
            pieces_of_none hgiven, hsplit, hescaped]
          refine ⟨rfl, List.isChain_cons.mpr ⟨?_, hchain⟩, rfl, rfl⟩
          rintro q hq ⟨hslash, rfl⟩
          cases hslash
          obtain ⟨ps, hps⟩ := List.head?_eq_some_iff.mp hq
          rw [hescaped, hps] at hdrop
          exact hdrop ⟨rfl, rfl⟩

end Line

/-! ## Joined lines -/

/-- Escaped texts that are joined and read as inert pieces are shown as something that deviates, unless
each of them is kept and none shares a tag with another. -/
theorem deviates_or_kept {texts : List (List Char)} (hne : texts ≠ [])
    (hlines : ∀ text ∈ texts, '\n' ∉ text)
    (hinert : ∀ p ∈ pieces (joined (texts.map escape)), p.IsInert) :
    Deviates (shownText (pieces (joined (texts.map escape)))) (joined texts)
      ∨ (∀ text ∈ texts, IsKept text) ∧ IsSeparate texts := by
  have hkept : ∀ {cs : List Char}, addedSlashes cs = 0 →
      (pieces cs).IsChain Piece.IsShownBefore → IsKept cs := by
    intro cs hadded hchain
    refine ⟨hchain, ?_⟩
    by_contra hsingle
    rw [addedSlashes, if_pos (Bool.not_eq_false _ ▸ hsingle)] at hadded
    cases hadded
  induction texts with
  | nil => exact absurd rfl hne
  | cons text rest ih =>
    obtain ⟨hline, hrest⟩ := List.forall_mem_cons.mp hlines
    cases rest with
    | nil =>
      rw [List.map_singleton, joined_singleton] at hinert
      rw [List.map_singleton, joined_singleton, joined_singleton]
      have hcases := shown_line_cases .nil (addedSlashes text) text
      rw [List.append_nil, List.append_nil, ← escape_eq] at hcases
      rcases hcases hinert with hdeviates | ⟨hadded, hchain, -, -⟩
      · exact .inl hdeviates
      · exact .inr ⟨List.forall_mem_singleton.mpr (hkept hadded hchain),
          isSeparate_singleton hline⟩
    | cons next rest =>
      have hfollows : Follows ('\n' :: joined ((next :: rest).map escape))
          ('\n' :: joined (next :: rest)) := .line (firstBracket?_joined_escape _)
      have hjoined : joined ((text :: next :: rest).map escape)
          = escapeTags text ++ (List.replicate (addedSlashes text) '\\'
            ++ '\n' :: joined ((next :: rest).map escape)) := by
        rw [List.map_cons, List.map_cons, joined_cons_cons, escape_eq text, List.append_assoc]
      rw [hjoined] at hinert ⊢
      rw [joined_cons_cons]
      -- either the first line deviates, and with it the text, or the others are left to compare
      rcases shown_line_cases hfollows (addedSlashes text) text hinert with
        hdeviates | ⟨hadded, hchain, hsplit, hescaped⟩
      · exact .inl hdeviates
      · have hfeed : ∀ tail, pieces ('\n' :: tail) = .char '\n' :: pieces tail :=
          pieces_cons (by decide) (by decide)
        rw [hadded, List.replicate_zero, List.nil_append, hescaped, hfeed] at hinert ⊢
        have hinert : ∀ p ∈ pieces (joined ((next :: rest).map escape)), p.IsInert :=
          fun p hp => hinert p (List.mem_append_right _ (List.mem_cons_of_mem _ hp))
        rcases ih (List.cons_ne_nil _ _) hrest hinert with hdeviates | ⟨hkeptrest, hseparate⟩
        · left
          have hfeedkept : ¬ ('\n' = '\\'
              ∧ (pieces (joined ((next :: rest).map escape))).head? = some (.char '[')) :=
            fun h => absurd h.1 (by decide)
          rw [shownText_guarded_append hchain (fun h => by cases h), flatMap_raw_pieces, shownText,
            if_neg hfeedkept]
          exact (hdeviates.append_left ['\n']).append_left text
        · right
          refine ⟨List.forall_mem_cons.mpr ⟨hkept hadded hchain, hkeptrest⟩, ?_⟩
          intro slashes body hmem hspan
          rw [joined_cons_cons, hsplit, hfeed] at hmem
          rcases List.mem_append.mp hmem with hmem | hmem
          · exact hline (subset_of_tag_mem_pieces hmem hspan)
          · rcases List.mem_cons.mp hmem with hmem | hmem
            · cases hmem
            · exact hseparate slashes body hmem hspan

/-- Escaping adds no brackets. -/
theorem count_joined_escape (texts : List (List Char)) :
    (joined (texts.map escape)).count '[' = (joined texts).count '[' := by
  -- escaping adds backslashes only
  have hpieces : ∀ ps : List Piece,
      (ps.flatMap Piece.escape).count '[' = (ps.flatMap Piece.raw).count '[' := by
    intro ps
    induction ps with
    | nil => rfl
    | cons p rest ih =>
      rw [List.flatMap_cons, List.flatMap_cons, List.count_append, List.count_append, ih]
      cases p with
      | char c => rfl
      | tag slashes body =>
        rw [Piece.escape, Piece.raw, List.count_append, List.count_append, count_slashes,
          count_slashes]
  have hescape : ∀ cs, (escape cs).count '[' = cs.count '[' := by
    intro cs
    rw [escape_eq, List.count_append, count_slashes, Nat.add_zero, escapeTags, hpieces,
      flatMap_raw_pieces]
  induction texts with
  | nil => rfl
  | cons text rest ih =>
    cases rest with
    | nil => rw [List.map_singleton, joined_singleton, joined_singleton, hescape]
    | cons next rest =>
      rw [List.map_cons] at ih
      rw [List.map_cons, List.map_cons, joined_cons_cons, joined_cons_cons, List.count_append,
        List.count_append, hescape, List.count_cons, List.count_cons, ih]

/-- Joined texts are shown with fewer brackets than they have, or as something that deviates, or as
they are. -/
theorem eq_or_deviates_of_render {texts : List (List Char)} (hne : texts ≠ [])
    (hlines : ∀ text ∈ texts, '\n' ∉ text) {shown : List Char}
    (h : render (joined (texts.map escape)) = .ok shown) :
    shown.count '[' ≤ (joined texts).count '['
      ∧ (shown.count '[' = (joined texts).count '[' →
        Deviates shown (joined texts)
          ∨ shown = joined texts ∧ (∀ text ∈ texts, IsKept text) ∧ IsSeparate texts) := by
  -- a tag that was applied has taken its bracket away
  obtain ⟨hle, hinert⟩ := count_of_renderFrom h
  rw [flatMap_raw_pieces, count_joined_escape] at hle hinert
  refine ⟨hle, fun hcount => ?_⟩
  have hshown : shown = shownText (pieces (joined (texts.map escape))) := by
    have hinerted := renderFrom_of_inert (hinert hcount) 0 []
    rw [render] at h
    rw [hinerted] at h
    exact (Except.ok.inj h).symm
  rw [hshown]
  rcases deviates_or_kept hne hlines (hinert hcount) with hdeviates | ⟨hkept, hseparate⟩
  · exact .inl hdeviates
  · exact .inr ⟨(shownText_of_kept hlines hkept hseparate).2, hkept, hseparate⟩

/-- Joined texts are shown as they are exactly if each of them is kept and none shares a tag with
another. -/
theorem render_joined_iff {texts : List (List Char)} (hne : texts ≠ [])
    (hlines : ∀ text ∈ texts, '\n' ∉ text) :
    render (joined (texts.map escape)) = .ok (joined texts)
      ↔ (∀ text ∈ texts, IsKept text) ∧ IsSeparate texts := by
  constructor
  · intro h
    rcases (eq_or_deviates_of_render hne hlines h).2 rfl with hdeviates | ⟨-, hkept⟩
    · exact absurd rfl hdeviates.ne
    · exact hkept
  · rintro ⟨hkept, hseparate⟩
    obtain ⟨hinert, hshown⟩ := shownText_of_kept hlines hkept hseparate
    rw [render, renderFrom_of_inert hinert, hshown]

end SinkAudit.Markup
