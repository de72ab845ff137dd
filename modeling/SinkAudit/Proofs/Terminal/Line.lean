import Mathlib.Data.List.DropRight
import Mathlib.Data.List.SplitBy
import SinkAudit.Proofs.Text.Printable
import SinkAudit.Terminal.Line

/-!
# Lines that fit

A line that is no wider than its column is shown as it is, with blanks behind it: none of its words goes
to another line, and nothing of it is cut but blanks that are put back.

These are the facts that the layout of tables rests on. The width of a line is not the sum over its
characters, as two of them count by their neighbours, so even the width of a joined line needs an argument.

- `width_add_le`, `width_append_blanks`: the widths of the parts of a line.
- `padTo_append_blanks`, `padTo_padTo`: blanks at the end of a line do not add to those that fill it up.
- `wrap_eq_singleton`: a line that fits is not broken.
- `wrap_map_eq`: what a column makes of a line that fits.
-/

namespace SinkAudit.Terminal

open Text

/-! ## Widths -/

/-- Does a line have no joiner? -/
def IsUnjoined (cs : List Char) : Prop := ∀ c ∈ cs, c ≠ '\u200D'

theorem widthAfter_cons {c : Char} (h : c ≠ '\u200D') (shown : Option Char) (rest : List Char) :
    widthAfter shown (c :: rest)
      = if c = '\uFE0F' then pictureWidth shown + widthAfter none rest
        else charWidth c + widthAfter (lastShown shown c) rest := by
  by_cases hpicture : c = '\uFE0F'
  · subst hpicture
    rfl
  · simp [widthAfter, h, hpicture]

/-- The character before the end of a line that a mark for a picture would change. -/
def shownAfter (shown : Option Char) : List Char → Option Char
  | [] => shown
  | c :: rest => shownAfter (if c = '\uFE0F' then none else lastShown shown c) rest

theorem widthAfter_append {cs : List Char} (h : IsUnjoined cs) (rest : List Char) :
    ∀ shown, widthAfter shown (cs ++ rest)
      = widthAfter shown cs + widthAfter (shownAfter shown cs) rest := by
  induction cs with
  | nil => exact fun shown => (Nat.zero_add _).symm
  | cons c cs ih =>
    obtain ⟨hc, hcs⟩ := List.forall_mem_cons.mp h
    intro shown
    rw [List.cons_append, widthAfter_cons hc, widthAfter_cons hc, shownAfter]
    by_cases hpicture : c = '\uFE0F'
    · rw [if_pos hpicture, if_pos hpicture, if_pos hpicture, ih hcs, Nat.add_assoc]
    · rw [if_neg hpicture, if_neg hpicture, if_neg hpicture, ih hcs, Nat.add_assoc]

/-- A mark for a picture at its start makes a line at most wider. -/
theorem widthAfter_none_le {cs : List Char} (h : IsUnjoined cs) (shown : Option Char) :
    widthAfter none cs ≤ widthAfter shown cs := by
  induction cs with
  | nil => exact Nat.le_refl _
  | cons c cs ih =>
    obtain ⟨hc, hcs⟩ := List.forall_mem_cons.mp h
    rw [widthAfter_cons hc, widthAfter_cons hc]
    by_cases hpicture : c = '\uFE0F'
    -- a mark for a picture counts only behind a character, and starts anew after that
    · rw [if_pos hpicture, if_pos hpicture]
      have hnone : pictureWidth none = 0 := rfl
      omega
    · rw [if_neg hpicture, if_neg hpicture, lastShown, lastShown]
      by_cases hwidth : charWidth c = 0
      · rw [if_pos hwidth, if_pos hwidth]
        have := ih hcs
        omega
      · rw [if_neg hwidth, if_neg hwidth]

/-- The parts of a line are not wider together than the line. -/
theorem width_add_le {cs rest : List Char} (hcs : IsUnjoined cs) (hrest : IsUnjoined rest) :
    width cs + width rest ≤ width (cs ++ rest) := by
  have hle := widthAfter_none_le hrest (shownAfter none cs)
  rw [width, width, width, widthAfter_append hcs]
  omega

theorem widthAfter_blanks (n : Nat) : ∀ shown, widthAfter shown (blanks n) = n := by
  induction n with
  | zero => exact fun _ => rfl
  | succ n ih =>
    intro shown
    have hspace : charWidth ' ' = 1 := by decide +kernel
    rw [blanks, List.replicate_succ, widthAfter_cons (by decide), if_neg (by decide), hspace]
    have := ih (lastShown shown ' ')
    rw [blanks] at this
    omega

/-- Blanks at the end of a line take a column each. -/
theorem width_append_blanks {cs : List Char} (h : IsUnjoined cs) (n : Nat) :
    width (cs ++ blanks n) = width cs + n := by
  rw [width, widthAfter_append h, widthAfter_blanks, width]

theorem IsUnjoined.append {cs rest : List Char} (hcs : IsUnjoined cs) (hrest : IsUnjoined rest) :
    IsUnjoined (cs ++ rest) :=
  fun c hc => (List.mem_append.mp hc).elim (hcs c) (hrest c)

/-! ## Lines that are filled up -/

section Filled

variable {n : Nat} {cs : List Char} (hunjoined : IsUnjoined cs)

include hunjoined

/-- Blanks at the end of a line are some of those that fill it up. -/
theorem padTo_append_blanks {k : Nat} (h : width (cs ++ blanks k) ≤ n) :
    padTo n (cs ++ blanks k) = padTo n cs := by
  rw [width_append_blanks hunjoined] at h
  have hspare : k + (n - (width cs + k)) = n - width cs := by omega
  rw [padTo, padTo, width_append_blanks hunjoined, List.append_assoc, blanks, blanks, blanks,
    ← List.replicate_add, hspare]

theorem width_padTo (h : width cs ≤ n) : width (padTo n cs) = n := by
  rw [padTo, width_append_blanks hunjoined]
  omega

theorem padTo_padTo (h : width cs ≤ n) : padTo n (padTo n cs) = padTo n cs :=
  padTo_append_blanks hunjoined (Nat.le_of_eq (width_padTo hunjoined h))

/-- A line that fits is filled up, and neither cut nor marked. -/
theorem fit_abbreviate (h : width cs ≤ n) : fit n (abbreviate n cs) = padTo n cs := by
  rw [abbreviate, if_pos h, fit, if_pos (Nat.le_of_eq (width_padTo hunjoined h)),
    padTo_padTo hunjoined h]

end Filled

/-! ## Words that stay on their line -/

/-- Words that fit stay on the line. -/
theorem wrapAfter_eq_singleton {n : Nat} {words : List (List Char)}
    (hunjoined : ∀ word ∈ words, IsUnjoined word) :
    ∀ {line : List Char} {column : Nat}, column + width words.flatten ≤ n →
      wrapAfter n line column words = [line ++ words.flatten] := by
  induction words with
  | nil =>
    intro line column _
    rw [List.flatten_nil, List.append_nil]
    rfl
  | cons word rest ih =>
    obtain ⟨hword, hrest⟩ := List.forall_mem_cons.mp hunjoined
    intro line column hfits
    have hflat : IsUnjoined rest.flatten := fun c hc => by
      obtain ⟨word', hword', hmem⟩ := List.mem_flatten.mp hc
      exact hrest word' hword' c hmem
    have hparts := width_add_le hword hflat
    rw [List.flatten_cons] at hfits ⊢
    -- the blanks behind a word count for the next word only
    have htrim : width (trimEnd word) ≤ width word := by
      have hsplit : trimEnd word ++ word.rtakeWhile isBlank = word :=
        List.rdropWhile_append_rtakeWhile
      have htrimmed : IsUnjoined (trimEnd word) := fun c hc => hword c (by
        rw [← hsplit]
        exact List.mem_append_left _ hc)
      have hblanks : IsUnjoined (word.rtakeWhile isBlank) := fun c hc => hword c (by
        rw [← hsplit]
        exact List.mem_append_right _ hc)
      have := width_add_le htrimmed hblanks
      rw [hsplit] at this
      omega
    rw [wrapAfter, if_pos (by omega), ih hrest (by omega), List.append_assoc]

/-- A line that fits is not broken. -/
theorem wrap_eq_singleton {n : Nat} {cs : List Char} (hunjoined : IsUnjoined cs)
    (h : width cs ≤ n) : wrap n cs = [cs] := by
  -- no part of the line is wider than the line, so that every word fits behind those before it
  have hflat : (words (cs.dropWhile isBlank)).flatten = cs.dropWhile isBlank :=
    List.flatten_splitBy _ _
  have hwords : ∀ word ∈ words (cs.dropWhile isBlank), IsUnjoined word := fun word hword c hc =>
    hunjoined c ((List.dropWhile_sublist isBlank).subset
      (hflat ▸ List.mem_flatten.mpr ⟨word, hword, hc⟩))
  rw [wrap]
  cases hfirst : words (cs.dropWhile isBlank) with
  | nil => rfl
  | cons word rest =>
    rw [hfirst] at hflat hwords
    have hline : cs.takeWhile isBlank ++ word ++ rest.flatten = cs := by
      rw [List.append_assoc, ← List.flatten_cons, hflat, List.takeWhile_append_dropWhile]
    have hfirstline : IsUnjoined (cs.takeWhile isBlank ++ word) := fun c hc => hunjoined c (by
      rw [← hline]
      exact List.mem_append_left _ hc)
    have hrestline : IsUnjoined rest.flatten := fun c hc => hunjoined c (by
      rw [← hline]
      exact List.mem_append_right _ hc)
    have hparts := width_add_le hfirstline hrestline
    rw [hline] at hparts
    show wrapAfter n (cs.takeWhile isBlank ++ word) _ rest = [cs]
    rw [wrapAfter_eq_singleton (List.forall_mem_cons.mp hwords).2 (by omega), hline]

/-- What is cut from the end of a line without other blanks than spaces is spaces. -/
theorem exists_eq_trimExcess {cs : List Char} (h : ∀ c ∈ cs, isBlank c = true → c = ' ') (n : Nat) :
    ∃ k, cs = trimExcess n cs ++ blanks k := by
  have hsplit : trimEnd cs ++ cs.rtakeWhile isBlank = cs := List.rdropWhile_append_rtakeWhile
  -- what is cut off beyond the trimmed text is an end of its trailing blanks
  have hcut : ∀ m, (trimEnd cs).length ≤ m →
      cs.drop m = (cs.rtakeWhile isBlank).drop (m - (trimEnd cs).length) := by
    intro m hm
    calc cs.drop m = (trimEnd cs ++ cs.rtakeWhile isBlank).drop m := by rw [hsplit]
      _ = (cs.rtakeWhile isBlank).drop (m - (trimEnd cs).length) := by
        rw [List.drop_append, List.drop_eq_nil_of_le hm, List.nil_append]
  have hspaces : ∀ c ∈ cs.drop (max n (trimEnd cs).length), c = ' ' := by
    intro c hc
    refine h c (List.mem_of_mem_drop hc) ?_
    rw [hcut _ (Nat.le_max_right ..)] at hc
    exact List.mem_rtakeWhile_imp (List.mem_of_mem_drop hc)
  refine ⟨(cs.drop (max n (trimEnd cs).length)).length, ?_⟩
  rw [blanks, ← List.eq_replicate_iff.mpr ⟨rfl, hspaces⟩, trimExcess, List.take_append_drop]

/-- A line that fits and has no other blanks than spaces is filled up to its column. -/
theorem wrap_map_eq {n : Nat} {cs : List Char} (hunjoined : IsUnjoined cs)
    (hblank : ∀ c ∈ cs, isBlank c = true → c = ' ') (h : width cs ≤ n) :
    ([cs].map fun line => fit n (abbreviate n (trimExcess n line))) = [padTo n cs] := by
  obtain ⟨k, hk⟩ := exists_eq_trimExcess hblank n
  have hkept : IsUnjoined (trimExcess n cs) := fun c hc => hunjoined c (by
    rw [hk]
    exact List.mem_append_left _ hc)
  have hfits : width (trimExcess n cs ++ blanks k) ≤ n := hk ▸ h
  have hkeptfits : width (trimExcess n cs) ≤ n := by
    rw [width_append_blanks hkept] at hfits
    omega
  have hpadded : padTo n cs = padTo n (trimExcess n cs) := by
    conv_lhs => rw [hk]
    exact padTo_append_blanks hkept hfits
  rw [List.map_singleton, fit_abbreviate hkept hkeptfits, hpadded]

/-! ## Printable lines -/

theorem expandTabs_of_not_mem {cs : List Char} (h : '\t' ∉ cs) : expandTabs cs = cs := by
  rw [expandTabs, List.splitOn_eq_singleton h]
  rfl

end SinkAudit.Terminal
