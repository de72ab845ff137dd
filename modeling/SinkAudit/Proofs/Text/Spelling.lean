import Mathlib.Data.List.Forall2
import Mathlib.Data.List.TakeWhile
import SinkAudit.Text.Blank
import SinkAudit.Text.Lowercase

/-!
# Spellings of a text

A text may be written with blanks around it, or with its ASCII letters in another case. Trimming takes
the blanks off, and lower case does not depend on the case of the letters, nor on that of those around
them.

- `Text.Padded`: one text is the other between ASCII blanks; `Text.Padded.strip_eq`,
  `Text.Padded.trim_toString?`: both are the same when they are trimmed.
- `Text.Recased`: the texts differ at most in the case of ASCII letters; `Text.Recased.strip`: they do so
  when they are trimmed, too; `Text.Recased.lower_eq`: in lower case they are the same.
- `Text.surrogate_mem_strip_iff`, `Text.surrogate_mem_lower_iff`: neither takes a lone surrogate away.
-/

namespace SinkAudit

/-! ## Blanks around a text -/

namespace Text

/-- A space, a tab, or one of the ASCII characters that end a line or a page. -/
def isAsciiBlank (c : Char) : Bool := c == ' ' || (9 ≤ c.toNat && c.toNat ≤ 13)

theorem isWhiteSpace_of_isAsciiBlank {c : Char} (h : isAsciiBlank c = true) :
    isWhiteSpace c = true := by
  have hcases : c = ' ' ∨ 9 ≤ c.toNat ∧ c.toNat ≤ 13 := by simpa [isAsciiBlank] using h
  rcases hcases with rfl | hrange
  · decide
  · simp [isWhiteSpace, hrange]

theorem isBlank_of_isAsciiBlank {c : Char} (h : isAsciiBlank c = true) : isBlank c = true := by
  rw [isBlank, isWhiteSpace_of_isAsciiBlank h, Bool.true_or]

/-- What surrounds a list is dropped if the class holds it. -/
theorem trimBy_surrounded {α : Type} {p : α → Bool} {before after : List α}
    (hbefore : ∀ x ∈ before, p x = true) (hafter : ∀ x ∈ after, p x = true) (xs : List α) :
    trimBy p (before ++ xs ++ after) = trimBy p xs := by
  have hreverse : ∀ x ∈ after.reverse, p x = true := fun x hx => hafter x (List.mem_reverse.mp hx)
  unfold trimBy
  rw [List.append_assoc, List.dropWhile_append_of_pos hbefore, List.dropWhile_append]
  split
  · next hempty =>
    rw [List.isEmpty_iff.mp hempty, List.dropWhile_eq_nil_iff.mpr hafter]
  · rw [List.reverse_append, List.dropWhile_append_of_pos hreverse]

/-- What is trimmed by a class begins with no member of it. -/
theorem head?_of_trimBy {α : Type} {p : α → Bool} {xs : List α} (h : trimBy p xs = xs) :
    ∀ x ∈ xs.head?, p x = false := by
  cases xs with
  | nil => exact nofun
  | cons x xs =>
    rintro _ ⟨⟩
    refine Bool.eq_false_iff.mpr fun hx => ?_
    -- a first member would be dropped, and nothing makes up for it
    have hlength : (trimBy p (x :: xs)).length ≤ xs.length := by
      rw [trimBy, List.dropWhile_cons_of_pos hx, List.length_reverse]
      refine (List.dropWhile_suffix p).length_le.trans ?_
      rw [List.length_reverse]
      exact (List.dropWhile_suffix p).length_le
    rw [h, List.length_cons] at hlength
    omega

/-- The second text is the first between blanks. -/
def Padded (t u : Text) : Prop :=
  ∃ before after : List Char, before.all isAsciiBlank = true ∧ after.all isAsciiBlank = true
    ∧ u = before.map .scalar ++ t ++ after.map .scalar

variable {t u : Text}

theorem Padded.strip_eq (h : t.Padded u) : u.strip = t.strip := by
  obtain ⟨before, after, hbefore, hafter, rfl⟩ := h
  have hblank : ∀ cs : List Char, cs.all isAsciiBlank = true →
      ∀ c ∈ cs.map CodePoint.scalar, c.satisfies isBlank = true := by
    intro cs hcs c hc
    obtain ⟨a, ha, rfl⟩ := List.mem_map.mp hc
    exact isBlank_of_isAsciiBlank (List.all_eq_true.mp hcs a ha)
  exact trimBy_surrounded (hblank before hbefore) (hblank after hafter) t

theorem chars?_append (t u : Text) :
    chars? (t ++ u) = (chars? t).bind fun cs => (chars? u).map (cs ++ ·) := by
  induction t with
  | nil => cases hu : chars? u <;> simp [chars?, hu]
  | cons c rest ih =>
    cases c with
    | surrogate k => rfl
    | scalar c =>
      rw [List.cons_append, chars?, chars?, ih]
      cases chars? rest <;> cases chars? u <;> rfl

/-- Blanks around a text are white space around the string that it denotes. -/
theorem Padded.trim_toString? (h : t.Padded u) :
    u.toString?.map trimString = t.toString?.map trimString := by
  obtain ⟨before, after, hbefore, hafter, rfl⟩ := h
  have hwhite : ∀ cs : List Char, cs.all isAsciiBlank = true → ∀ c ∈ cs, isWhiteSpace c = true :=
    fun cs hcs c hc => isWhiteSpace_of_isAsciiBlank (List.all_eq_true.mp hcs c hc)
  unfold toString?
  rw [chars?_append, chars?_append, chars?_map_scalar, chars?_map_scalar]
  cases chars? t with
  | none => rfl
  | some cs =>
    simp only [Option.bind_some, Option.map_some, trimString, String.toList_ofList]
    rw [trimBy_surrounded (hwhite before hbefore) (hwhite after hafter)]

end Text

/-! ## The case of letters -/

/-- The code points are the same, or forms of one ASCII letter. -/
def CodePoint.Recased (c d : CodePoint) : Prop :=
  d = c ∨ ∃ a b : Char, c = .scalar a ∧ d = .scalar b ∧ a.isAlpha = true ∧ b.isAlpha = true
    ∧ b.toLower = a.toLower

theorem CodePoint.recased_scalar_iff {a b : Char} :
    (scalar a).Recased (scalar b)
      ↔ b = a ∨ a.isAlpha = true ∧ b.isAlpha = true ∧ b.toLower = a.toLower := by
  simp [CodePoint.Recased]

instance : DecidableRel CodePoint.Recased
  | .scalar _, .scalar _ => decidable_of_iff _ CodePoint.recased_scalar_iff.symm
  | .scalar _, .surrogate _ => .isFalse (by simp [CodePoint.Recased])
  | .surrogate k, d => decidable_of_iff (d = .surrogate k) (by simp [CodePoint.Recased])

/-- The texts differ at most in the case of ASCII letters. -/
def Text.Recased (t u : Text) : Prop := List.Forall₂ CodePoint.Recased t u

instance : DecidableRel Text.Recased :=
  fun t u => inferInstanceAs (Decidable (List.Forall₂ CodePoint.Recased t u))

theorem Text.isAlpha_iff {c : Char} :
    c.isAlpha = true ↔ (65 ≤ c.toNat ∧ c.toNat ≤ 90) ∨ (97 ≤ c.toNat ∧ c.toNat ≤ 122) := by
  show (decide (65 ≤ c.val ∧ c.val ≤ 90) || (decide (97 ≤ c.val) && decide (c.val ≤ 122))) = true
    ↔ _
  simp [UInt32.le_iff_toNat_le]

namespace Text

variable {t u : Text}

/-! ### Classes of letters -/

theorem isBlank_of_isAlpha {c : Char} (h : c.isAlpha = true) : isBlank c = false := by
  have hrange := isAlpha_iff.mp h
  simp only [isBlank, isWhiteSpace, Bool.or_eq_false_iff, Bool.and_eq_false_iff,
    decide_eq_false_iff_not, beq_eq_false_iff_ne]
  omega

/-- ASCII letters are letters of words. -/
theorem inRanges_of_isAlpha {c : Char} (h : c.isAlpha = true) :
    inRanges caseIgnorableRanges c.toNat = false ∧ inRanges casedRanges c.toNat = true := by
  -- no range of skipped characters meets the letters
  have hskipped : ∀ r ∈ caseIgnorableRanges, r.2 < 65 ∨ (90 < r.1 ∧ r.2 < 97) ∨ 122 < r.1 := by
    decide +kernel
  have hrange := isAlpha_iff.mp h
  constructor
  · refine List.any_eq_false.mpr fun r hr => ?_
    have hapart := hskipped r hr
    simp only [Bool.and_eq_true, decide_eq_true_eq]
    omega
  · rcases hrange with hupper | hlower
    · exact List.any_eq_true.mpr ⟨(65, 90), List.mem_cons_self, by simpa using hupper⟩
    · exact List.any_eq_true.mpr
        ⟨(97, 122), List.mem_cons_of_mem _ List.mem_cons_self, by simpa using hlower⟩

theorem lowerChar_of_isAlpha {c : Char} (h : c.isAlpha = true) : lowerChar c = c.toLower := by
  have hrange := isAlpha_iff.mp h
  rw [lowerChar, if_pos (by omega)]

/-! ### Trimming -/

theorem forall₂_dropWhile {α : Type} {R : α → α → Prop} {p : α → Bool}
    (hp : ∀ x y, R x y → p y = p x) {xs ys : List α} (h : List.Forall₂ R xs ys) :
    List.Forall₂ R (xs.dropWhile p) (ys.dropWhile p) := by
  induction h with
  | nil => exact .nil
  | @cons x y xs ys hxy hrest ih =>
    rw [List.dropWhile_cons, List.dropWhile_cons, hp x y hxy]
    split
    · exact ih
    · exact .cons hxy hrest

/-- A text in another case is trimmed to the trimmed text in another case. -/
theorem Recased.strip (h : t.Recased u) : t.strip.Recased u.strip := by
  have hblank : ∀ c d : CodePoint, c.Recased d → d.satisfies isBlank = c.satisfies isBlank := by
    intro c d hcd
    rcases hcd with rfl | ⟨a, b, rfl, rfl, ha, hb, -⟩
    · rfl
    · exact (isBlank_of_isAlpha hb).trans (isBlank_of_isAlpha ha).symm
  have hfront := forall₂_dropWhile hblank h
  have hback := forall₂_dropWhile hblank (List.forall₂_reverse_iff.mpr hfront)
  exact List.forall₂_reverse_iff.mpr hback

/-! ### Lower case -/

/-- Whether a letter comes next does not depend on its case. -/
theorem Recased.noLetterNext_eq (h : t.Recased u) : noLetterNext u = noLetterNext t := by
  induction h with
  | nil => rfl
  | @cons c d t u hcd _ ih =>
    rcases hcd with rfl | ⟨a, b, rfl, rfl, ha, hb, -⟩
    · cases d with
      | surrogate k => rfl
      | scalar a => rw [noLetterNext, noLetterNext, ih]
    · obtain ⟨haignored, hacased⟩ := inRanges_of_isAlpha ha
      obtain ⟨hbignored, hbcased⟩ := inRanges_of_isAlpha hb
      rw [noLetterNext, noLetterNext, haignored, hbignored, hacased, hbcased]
      rfl

/-- The lower case of a text depends neither on the case of its letters nor on that of the letters
before it. -/
theorem Recased.lowerAfter_eq (h : t.Recased u) :
    ∀ {before before' : Text}, before.Recased before' →
      lowerAfter before' u = lowerAfter before t := by
  induction h with
  | nil => exact fun _ => rfl
  | @cons c d t u hcd hrest ih =>
    intro before before' hbefore
    have hnext := ih (.cons hcd hbefore)
    rcases hcd with rfl | ⟨a, b, rfl, rfl, ha, hb, hab⟩
    · cases d with
      | surrogate k => rw [lowerAfter, lowerAfter, hnext]
      | scalar a =>
        rw [lowerAfter, lowerAfter, hnext, endsWord, endsWord, hbefore.noLetterNext_eq,
          Recased.noLetterNext_eq hrest]
    · -- an ASCII letter is none of the two characters with a lower case of their own
      have hsmall : ∀ {x : Char}, x.isAlpha = true → (x.toNat == 0x130) = false
          ∧ (x.toNat == 0x3A3) = false := by
        intro x hx
        have hrange := isAlpha_iff.mp hx
        rw [beq_eq_false_iff_ne, beq_eq_false_iff_ne]
        omega
      rw [lowerAfter, lowerAfter, hnext, (hsmall ha).1, (hsmall ha).2, (hsmall hb).1, (hsmall hb).2,
        lowerChar_of_isAlpha ha, lowerChar_of_isAlpha hb, hab]
      rfl

/-- Texts that differ at most in the case of letters are the same in lower case. -/
theorem Recased.lower_eq (h : t.Recased u) : lower u = lower t := h.lowerAfter_eq .nil

/-- The strings of such texts are the same when their ASCII letters are put into lower case. -/
theorem Recased.toString?_eq (h : t.Recased u) :
    u.toString?.map (·.toList.map Char.toLower) = t.toString?.map (·.toList.map Char.toLower) := by
  unfold toString?
  simp only [Option.map_map, Function.comp_def, String.toList_ofList]
  induction h with
  | nil => rfl
  | @cons c d t u hcd _ ih =>
    -- reading letter by letter: one more letter is put before whatever is read of the rest
    have hcons : ∀ (a : Char) (t : Text), (chars? (.scalar a :: t)).map (·.map Char.toLower)
        = ((chars? t).map (·.map Char.toLower)).map (a.toLower :: ·) := by
      intro a t
      rw [chars?, Option.map_map, Option.map_map]
      rfl
    rcases hcd with rfl | ⟨a, b, rfl, rfl, -, -, hab⟩
    · cases d with
      | surrogate k => rfl
      | scalar a => rw [hcons, hcons, ih]
    · rw [hcons, hcons, ih, hab]

end Text

/-! ## Lone surrogates -/

namespace Text

variable {t : Text} {k : Fin 0x800}

/-- A text is no string if a surrogate stands alone in it. -/
theorem toString?_eq_none_iff : t.toString? = none ↔ ∃ k, CodePoint.surrogate k ∈ t := by
  rw [toString?, Option.map_eq_none_iff]
  induction t with
  | nil => simp [chars?]
  | cons c rest ih =>
    cases c with
    | surrogate k => exact iff_of_true rfl ⟨k, List.mem_cons_self⟩
    | scalar c =>
      rw [chars?, Option.map_eq_none_iff, ih]
      simp

/-- What is outside the class is not trimmed off. -/
theorem mem_trimBy_iff {α : Type} {p : α → Bool} {x : α} (h : p x = false) {xs : List α} :
    x ∈ trimBy p xs ↔ x ∈ xs := by
  have hdrop : ∀ ys : List α, x ∈ ys.dropWhile p ↔ x ∈ ys := by
    intro ys
    have hfront : x ∉ ys.takeWhile p := fun hx => by
      rw [List.mem_takeWhile_imp hx] at h
      cases h
    conv_rhs => rw [← List.takeWhile_append_dropWhile (p := p) (l := ys)]
    rw [List.mem_append, or_iff_right hfront]
  rw [trimBy, List.mem_reverse, hdrop, List.mem_reverse, hdrop]

theorem surrogate_mem_strip_iff : CodePoint.surrogate k ∈ t.strip ↔ CodePoint.surrogate k ∈ t :=
  mem_trimBy_iff rfl

/-- Surrogates have no lower case, and characters have none that is a surrogate. -/
theorem surrogate_mem_lower_iff : CodePoint.surrogate k ∈ t.lower ↔ CodePoint.surrogate k ∈ t := by
  -- what stands before decides about a final sigma only, so that it may be anything
  have hafter : ∀ before, CodePoint.surrogate k ∈ lowerAfter before t
      ↔ CodePoint.surrogate k ∈ t := by
    induction t with
    | nil => exact fun _ => Iff.rfl
    | cons c rest ih =>
      intro before
      cases c with
      | surrogate k' => rw [lowerAfter, List.mem_cons, List.mem_cons, ih]
      | scalar c =>
        rw [lowerAfter, List.mem_append, List.mem_cons, ih]
        refine or_congr_left ?_
        split
        · simp
        · split <;> simp
  exact hafter []

end Text

end SinkAudit
