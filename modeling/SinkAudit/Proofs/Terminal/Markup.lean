import Mathlib.Data.List.TakeWhile
import SinkAudit.Terminal.Markup

/-!
# Escaped markup holds no tags

What is escaped holds no tag that could be applied: every tag of the text gets an odd number of
backslashes before it, and where the text has no tag none comes up, neither inside nor, as long as
what follows does not close a bracket that was left open, at its end.

Whether a bracket begins a tag depends on what comes after it, up to the next bracket. So a text cannot be
escaped without regard to what will follow it, and `escape` does not: the results here say for which
continuations it holds nonetheless (`Detached`).

- `firstBracket?`, `IsBody`: what makes a bracket a tag.
- `Detached`: what may follow a text without closing a bracket of it.
- `pieces_escapeTags`: the pieces of escaped text, and of what follows it.
- `Piece.IsInert`: the pieces that open and close nothing; `exists_pieces_escape`: escaped text is
  read as such pieces.
-/

namespace SinkAudit.Markup

/-! ## Tags -/

/-- May the character stand inside a tag? -/
def isInner (c : Char) : Bool := c != '[' && c != ']'

/-- The first bracket in a text. -/
def firstBracket? (cs : List Char) : Option Char := (cs.dropWhile isInner).head?

/-- The text of a tag. -/
def IsBody (body : List Char) : Prop :=
  ∃ c inner, body = c :: inner ∧ isTagStart c = true ∧ ∀ d ∈ inner, isInner d = true

theorem isInner_of_isTagStart {c : Char} (h : isTagStart c = true) : isInner c = true := by
  rw [isInner, Bool.and_eq_true, bne_iff_ne, bne_iff_ne]
  constructor
  · rintro rfl
    exact absurd h (by decide)
  · rintro rfl
    exact absurd h (by decide)

theorem firstBracket?_cons_of_inner {c : Char} (h : isInner c = true) (cs : List Char) :
    firstBracket? (c :: cs) = firstBracket? cs := by
  rw [firstBracket?, List.dropWhile_cons_of_pos h, firstBracket?]

theorem firstBracket?_cons_of_not_inner {c : Char} (h : isInner c = false) (cs : List Char) :
    firstBracket? (c :: cs) = some c := by
  rw [firstBracket?, List.dropWhile_cons_of_neg (by simp [h]), List.head?_cons]

/-- The first bracket of a text is the one that ends the part of it without brackets. -/
theorem firstBracket?_append (cs ds : List Char) :
    firstBracket? (cs ++ ds) = (firstBracket? cs).or (firstBracket? ds) := by
  induction cs with
  | nil => rfl
  | cons c cs ih =>
    cases h : isInner c with
    | true => rw [List.cons_append, firstBracket?_cons_of_inner h, firstBracket?_cons_of_inner h, ih]
    | false =>
      rw [List.cons_append, firstBracket?_cons_of_not_inner h, firstBracket?_cons_of_not_inner h,
        Option.some_or]

theorem firstBracket?_of_inner {cs : List Char} (h : ∀ c ∈ cs, isInner c = true) :
    firstBracket? cs = none := by
  rw [firstBracket?, List.head?_eq_none_iff, List.dropWhile_eq_nil_iff]
  exact h

/-- A tag begins with a proper character, and the next bracket closes it. -/
theorem tagAfter?_cons (c : Char) (rest : List Char) :
    tagAfter? (c :: rest)
      = if isTagStart c = true ∧ firstBracket? rest = some ']' then
          some (c :: rest.takeWhile isInner, (rest.dropWhile isInner).tail)
        else none := by
  have hinner : (fun c => c != '[' && c != ']') = isInner := rfl
  simp only [tagAfter?, hinner]
  split
  · next hstart hdrop =>
    have hclose : firstBracket? rest = some ']' := by rw [firstBracket?, hdrop, List.head?_cons]
    rw [if_pos ⟨hstart, hclose⟩, hdrop, List.tail_cons]
  · next hnot =>
    rw [if_neg]
    rintro ⟨hstart, hclose⟩
    obtain ⟨after, hafter⟩ := List.head?_eq_some_iff.mp hclose
    exact hnot after hstart hafter

/-- What stands behind an opening bracket is no tag exactly if it does not begin like one, or
another bracket comes before the closing one. -/
theorem tagAfter?_eq_none_iff {cs : List Char} :
    tagAfter? cs = none ↔ ∀ c ∈ cs.head?, isTagStart c = true → firstBracket? cs ≠ some ']' := by
  cases cs with
  | nil => simp [tagAfter?]
  | cons c rest =>
    rw [tagAfter?_cons]
    simp only [List.head?_cons, Option.mem_some_iff, forall_eq', ite_eq_right_iff, reduceCtorEq,
      imp_false, not_and]
    refine forall_congr' fun hstart => ?_
    rw [firstBracket?_cons_of_inner (isInner_of_isTagStart hstart)]

/-- A tag is its text and a closing bracket. -/
theorem eq_of_tagAfter? {cs body after : List Char} (h : tagAfter? cs = some (body, after)) :
    IsBody body ∧ cs = body ++ ']' :: after := by
  cases cs with
  | nil => cases h
  | cons c rest =>
    rw [tagAfter?_cons] at h
    split at h
    · next hfound =>
      cases h
      obtain ⟨hstart, hclose⟩ := hfound
      obtain ⟨after, hafter⟩ := List.head?_eq_some_iff.mp hclose
      refine ⟨⟨c, _, rfl, hstart, fun d hd => List.mem_takeWhile_imp hd⟩, ?_⟩
      rw [hafter, List.tail_cons, List.cons_append, ← hafter, List.takeWhile_append_dropWhile]
    · cases h

/-- The text of a tag and a closing bracket are a tag, whatever follows. -/
theorem tagAfter?_of_isBody {body : List Char} (h : IsBody body) (after : List Char) :
    tagAfter? (body ++ ']' :: after) = some (body, after) := by
  obtain ⟨c, inner, rfl, hstart, hinner⟩ := h
  have hclose : isInner ']' = false := by decide
  have hdrop : (inner ++ ']' :: after).dropWhile isInner = ']' :: after := by
    rw [List.dropWhile_append_of_pos hinner, List.dropWhile_cons_of_neg (by simp [hclose])]
  have htake : (inner ++ ']' :: after).takeWhile isInner = inner := by
    rw [List.takeWhile_append_of_pos hinner, List.takeWhile_cons_of_neg (by simp [hclose]),
      List.append_nil]
  rw [List.cons_append, tagAfter?_cons, firstBracket?, hdrop, htake]
  exact if_pos ⟨hstart, rfl⟩

/-! ## Pieces -/

/-- No tag begins at a character other than a backslash or an opening bracket. -/
theorem escapedTag?_cons_of_other {c : Char} (hslash : c ≠ '\\') (hopen : c ≠ '[')
    (rest : List Char) (n : Nat) : escapedTag? n (c :: rest) = none := by
  simp [escapedTag?, hslash, hopen]

/-- What may stand first in a tag begins none itself. -/
theorem escapedTag?_cons_of_isTagStart {c : Char} (h : isTagStart c = true) (rest : List Char)
    (n : Nat) : escapedTag? n (c :: rest) = none := by
  have hslash : c ≠ '\\' := by
    rintro rfl
    exact absurd h (by decide)
  have hopen : c ≠ '[' := by
    rintro rfl
    exact absurd h (by decide)
  exact escapedTag?_cons_of_other hslash hopen rest n

/-- Whether a tag follows does not depend on the backslashes that were read. -/
theorem escapedTag?_eq_none_iff {cs : List Char} {m n : Nat} :
    escapedTag? m cs = none ↔ escapedTag? n cs = none := by
  induction cs generalizing m n with
  | nil => simp [escapedTag?]
  | cons c rest ih =>
    by_cases hslash : c = '\\'
    · subst hslash
      exact ih
    · by_cases hopen : c = '['
      · subst hopen
        simp [escapedTag?]
      · rw [escapedTag?_cons_of_other hslash hopen, escapedTag?_cons_of_other hslash hopen]

/-- Backslashes, a bracket and a tag. -/
theorem eq_of_escapedTag? {cs body after : List Char} {m n : Nat}
    (h : escapedTag? m cs = some (n, body, after)) :
    m ≤ n ∧ IsBody body ∧ cs = List.replicate (n - m) '\\' ++ (bracketed body ++ after) := by
  fun_induction escapedTag? m cs with
  | case1 m rest ih =>
    obtain ⟨hle, hbody, hrest⟩ := ih h
    refine ⟨by omega, hbody, ?_⟩
    rw [hrest, show n - m = n - (m + 1) + 1 by omega, List.replicate_succ, List.cons_append]
  | case2 m rest =>
    obtain ⟨⟨b, a⟩, htag, heq⟩ := Option.map_eq_some_iff.mp h
    cases heq
    obtain ⟨hbody, hrest⟩ := eq_of_tagAfter? htag
    refine ⟨Nat.le_refl _, hbody, ?_⟩
    rw [hrest, Nat.sub_self, bracketed]
    simp
  | case3 => cases h

/-- Backslashes, a bracket and a tag are read as such. -/
theorem escapedTag?_replicate {body : List Char} (h : IsBody body) (after : List Char) :
    ∀ m n, escapedTag? m (List.replicate n '\\' ++ (bracketed body ++ after))
      = some (m + n, body, after)
  | m, 0 => by
    rw [List.replicate_zero, List.nil_append, bracketed, List.cons_append, List.cons_append,
      List.append_assoc, List.singleton_append, escapedTag?, tagAfter?_of_isBody h]
    rfl
  | m, n + 1 => by
    rw [List.replicate_succ, List.cons_append, escapedTag?, escapedTag?_replicate h after (m + 1) n,
      Nat.add_right_comm, Nat.add_assoc]

@[simp] theorem pieces_nil : pieces [] = [] := by
  rw [pieces]
  rfl

/-- A character that no tag begins at is a piece of its own. -/
theorem pieces_of_none {c : Char} {rest : List Char} (h : escapedTag? 0 (c :: rest) = none) :
    pieces (c :: rest) = .char c :: pieces rest := by
  rw [pieces]
  split
  · next hsome => rw [h] at hsome; cases hsome
  · rfl

/-- A tag is a piece together with the backslashes before it. -/
theorem pieces_of_some {cs body after : List Char} {n : Nat}
    (h : escapedTag? 0 cs = some (n, body, after)) : pieces cs = .tag n body :: pieces after := by
  rw [pieces]
  split
  · next hsome => rw [h] at hsome; cases hsome; rfl
  · next hnone => rw [h] at hnone; cases hnone

/-- A character other than a backslash or an opening bracket is a piece of its own. -/
theorem pieces_cons {c : Char} (hslash : c ≠ '\\') (hopen : c ≠ '[') (rest : List Char) :
    pieces (c :: rest) = .char c :: pieces rest :=
  pieces_of_none (escapedTag?_cons_of_other hslash hopen rest 0)

/-- A tag that a text begins with is a piece, whatever follows the text. -/
theorem pieces_append_of_some {cs body after : List Char} {n : Nat}
    (h : escapedTag? 0 cs = some (n, body, after)) (tail : List Char) :
    pieces (cs ++ tail) = .tag n body :: pieces (after ++ tail) := by
  obtain ⟨-, hbody, hcs⟩ := eq_of_escapedTag? h
  refine pieces_of_some ?_
  rw [hcs, Nat.sub_zero, List.append_assoc, List.append_assoc, escapedTag?_replicate hbody,
    Nat.zero_add]

/-- A tag without backslashes is a piece. -/
theorem pieces_bracketed {body : List Char} (h : IsBody body) (after : List Char) :
    pieces (bracketed body ++ after) = .tag 0 body :: pieces after :=
  pieces_of_some (escapedTag?_replicate h after 0 0)

/-! ## The pieces of escaped text -/

/-- A text with backslashes before its tags. -/
def escapeTags (cs : List Char) : List Char := (pieces cs).flatMap Piece.escape

/-- The piece that the escaped form of a piece is read as. -/
def Piece.guarded : Piece → Piece
  | char c => char c
  | tag slashes body => tag (2 * slashes + 1) body

/-- What follows a text does not close a bracket of it, and does not begin with a tag. -/
def Detached (tail : List Char) : Prop :=
  firstBracket? tail ≠ some ']' ∧ escapedTag? 0 tail = none

theorem escapeTags_of_none {c : Char} {rest : List Char} (h : escapedTag? 0 (c :: rest) = none) :
    escapeTags (c :: rest) = c :: escapeTags rest := by
  rw [escapeTags, pieces_of_none h]
  rfl

theorem escapeTags_of_some {cs body after : List Char} {n : Nat}
    (h : escapedTag? 0 cs = some (n, body, after)) :
    escapeTags cs
      = List.replicate (2 * n + 1) '\\' ++ (bracketed body ++ escapeTags after) := by
  rw [escapeTags, pieces_of_some h, List.flatMap_cons, Piece.escape, List.append_assoc, escapeTags]

/-- A tag that a text begins with is one when it is escaped, too. -/
theorem pieces_escapeTags_of_some {cs body after : List Char} {n : Nat}
    (h : escapedTag? 0 cs = some (n, body, after)) (tail : List Char) :
    pieces (escapeTags cs ++ tail)
      = .tag (2 * n + 1) body :: pieces (escapeTags after ++ tail) := by
  obtain ⟨-, hbody, -⟩ := eq_of_escapedTag? h
  have htag : escapedTag? 0 (escapeTags cs) = some (2 * n + 1, body, escapeTags after) := by
    rw [escapeTags_of_some h, escapedTag?_replicate hbody, Nat.zero_add]
  exact pieces_append_of_some htag tail

/-- Backslashes are no brackets, and the first bracket of a tag opens it. -/
theorem firstBracket?_replicate_bracketed (n : Nat) (body after : List Char) :
    firstBracket? (List.replicate n '\\' ++ (bracketed body ++ after)) = some '[' := by
  have hslashes : ∀ c ∈ List.replicate n '\\', isInner c = true := by
    intro c hc
    rw [List.eq_of_mem_replicate hc]
    decide
  rw [firstBracket?_append, firstBracket?_of_inner hslashes, Option.none_or, bracketed,
    List.cons_append, List.cons_append, firstBracket?_cons_of_not_inner (by decide)]

/-- Escaping leaves the first bracket of a text where it is. -/
theorem firstBracket?_escapeTags (cs : List Char) :
    firstBracket? (escapeTags cs) = firstBracket? cs := by
  induction cs using pieces.induct with
  | case1 cs n body after h _ =>
    obtain ⟨-, -, hcs⟩ := eq_of_escapedTag? h
    rw [escapeTags_of_some h, hcs, firstBracket?_replicate_bracketed,
      firstBracket?_replicate_bracketed]
  | case2 => rw [escapeTags, pieces_nil, List.flatMap_nil]
  | case3 c rest h ih =>
    rw [escapeTags_of_none h]
    cases hc : isInner c with
    | true => rw [firstBracket?_cons_of_inner hc, firstBracket?_cons_of_inner hc, ih]
    | false => rw [firstBracket?_cons_of_not_inner hc, firstBracket?_cons_of_not_inner hc]

/-- So does the backslash that may be added at the end. -/
theorem firstBracket?_escape (cs : List Char) : firstBracket? (escape cs) = firstBracket? cs := by
  show firstBracket? (if endsInSingleSlash (escapeTags cs) then escapeTags cs ++ ['\\']
    else escapeTags cs) = _
  split
  · rw [firstBracket?_append, firstBracket?_escapeTags]
    cases firstBracket? cs <;> rfl
  · exact firstBracket?_escapeTags cs

/-- A bracket that begins no tag begins none after what stands behind it is escaped. -/
theorem tagAfter?_escapeTags {cs tail : List Char} (h : tagAfter? cs = none)
    (htail : firstBracket? tail ≠ some ']') : tagAfter? (escapeTags cs ++ tail) = none := by
  rw [tagAfter?_eq_none_iff] at h ⊢
  intro c hc hstart hfirst
  rw [firstBracket?_append, firstBracket?_escapeTags] at hfirst
  cases hcs : cs with
  | nil =>
    rw [hcs] at hfirst
    exact htail hfirst
  | cons d rest =>
    have hclose : firstBracket? cs = some ']' := by
      cases hbracket : firstBracket? cs with
      | none =>
        rw [hbracket, Option.none_or] at hfirst
        exact absurd hfirst htail
      | some b => rwa [hbracket, Option.some_or] at hfirst
    obtain ⟨ds, hhead⟩ := List.head?_eq_some_iff.mp hc
    cases htag : escapedTag? 0 (d :: rest) with
    | none =>
      rw [hcs, escapeTags_of_none htag, List.cons_append, List.cons.injEq] at hhead
      refine h c ?_ hstart hclose
      rw [hcs, hhead.1]
      rfl
    | some found =>
      obtain ⟨n, body, after⟩ := found
      -- a tag right behind the bracket is escaped, and no tag begins with a backslash
      rw [hcs, escapeTags_of_some htag, List.replicate_succ, List.cons_append, List.cons_append,
        List.cons.injEq] at hhead
      rw [← hhead.1] at hstart
      exact absurd hstart (by decide)

/-- Where a text has no tag, none comes up when the rest of it is escaped. -/
theorem escapedTag?_escapeTags {tail : List Char} (htail : Detached tail) :
    ∀ {cs : List Char} {n : Nat}, escapedTag? n cs = none →
      escapedTag? n (escapeTags cs ++ tail) = none
  | [], n, _ => by
    rw [escapeTags, pieces_nil, List.flatMap_nil, List.nil_append, escapedTag?_eq_none_iff]
    exact htail.2
  | c :: rest, n, h => by
    rw [escapeTags_of_none (escapedTag?_eq_none_iff.mp h), List.cons_append]
    -- only a backslash or an opening bracket can be the start of a tag
    by_cases hslash : c = '\\'
    · subst hslash
      exact escapedTag?_escapeTags (n := n + 1) htail h
    · by_cases hopen : c = '['
      · subst hopen
        rw [escapedTag?, Option.map_eq_none_iff] at h ⊢
        exact tagAfter?_escapeTags h htail.1
      · exact escapedTag?_cons_of_other hslash hopen _ n

/-- Escaped text is read as the pieces of the text, the tags among them with an odd number of
backslashes. -/
theorem pieces_escapeTags (cs : List Char) {tail : List Char} (htail : Detached tail) :
    pieces (escapeTags cs ++ tail) = (pieces cs).map Piece.guarded ++ pieces tail := by
  induction cs using pieces.induct with
  | case1 cs n body after h ih =>
    rw [pieces_escapeTags_of_some h, ih, pieces_of_some h]
    rfl
  | case2 => rw [escapeTags, pieces_nil, List.flatMap_nil, List.nil_append, List.map_nil,
      List.nil_append]
  | case3 c rest h ih =>
    -- `h` is about the text as it was, the reader sees it with the rest escaped and the tail behind
    have hnone : escapedTag? 0 (c :: (escapeTags rest ++ tail)) = none := by
      have := escapedTag?_escapeTags htail h
      rwa [escapeTags_of_none h] at this
    rw [escapeTags_of_none h, List.cons_append, pieces_of_none hnone, ih, pieces_of_none h]
    rfl

/-! ## Inert pieces -/

/-- A piece that is shown as it is: a character, or a tag behind an odd number of backslashes. -/
def Piece.IsInert : Piece → Prop
  | char _ => True
  | tag slashes _ => slashes % 2 = 1

theorem Piece.isInert_guarded (p : Piece) : p.guarded.IsInert := by
  cases p with
  | char c => trivial
  | tag slashes body =>
    show (2 * slashes + 1) % 2 = 1
    omega

/-- Escaped text is read as inert pieces, and what follows it is read on its own. -/
theorem exists_pieces_escape (cs : List Char) :
    ∃ ps : List Piece, (∀ p ∈ ps, p.IsInert)
      ∧ ∀ tail, Detached tail → pieces (escape cs ++ tail) = ps ++ pieces tail := by
  have hguarded : ∀ p ∈ (pieces cs).map Piece.guarded, p.IsInert := by
    intro p hp
    obtain ⟨q, -, rfl⟩ := List.mem_map.mp hp
    exact q.isInert_guarded
  show ∃ ps : List Piece, _ ∧ ∀ tail, Detached tail →
    pieces ((if endsInSingleSlash (escapeTags cs) then escapeTags cs ++ ['\\'] else escapeTags cs)
      ++ tail) = ps ++ pieces tail
  -- the backslash that may be added at the end is a piece of its own
  by_cases hend : endsInSingleSlash (escapeTags cs) = true
  · refine ⟨(pieces cs).map Piece.guarded ++ [.char '\\'], ?_, fun tail htail => ?_⟩
    · intro p hp
      rcases List.mem_append.mp hp with hp | hp
      · exact hguarded p hp
      · rw [List.mem_singleton.mp hp]
        trivial
    · have hnone : escapedTag? 0 ('\\' :: tail) = none := by
        show escapedTag? 1 tail = none
        exact escapedTag?_eq_none_iff.mp htail.2
      have hslash : Detached ('\\' :: tail) := by
        refine ⟨?_, hnone⟩
        rw [firstBracket?_cons_of_inner (by decide)]
        exact htail.1
      rw [if_pos hend, List.append_assoc, List.singleton_append, pieces_escapeTags cs hslash,
        pieces_of_none hnone, List.append_assoc, List.singleton_append]
  · refine ⟨(pieces cs).map Piece.guarded, hguarded, fun tail htail => ?_⟩
    rw [if_neg hend, pieces_escapeTags cs htail]

end SinkAudit.Markup
