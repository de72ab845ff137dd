import SinkAudit.Text.Blank
import SinkAudit.Text.Printable

/-!
# Printable texts

- `AllPrintable`: a text of printable characters.
- `toNat_not_mem_of_isPrintable`: numbers that no printable character has.
- `eq_space_of_isBlank`: the only printable blank is the space.
-/

namespace SinkAudit.Text

/-- Are all characters of a text printable? -/
def AllPrintable (cs : List Char) : Prop := ∀ c ∈ cs, isPrintable c = true

instance (cs : List Char) : Decidable (AllPrintable cs) := List.decidableBAll _ cs

theorem AllPrintable.append {cs rest : List Char} (hcs : AllPrintable cs)
    (hrest : AllPrintable rest) : AllPrintable (cs ++ rest) :=
  fun c hc => (List.mem_append.mp hc).elim (hcs c) (hrest c)

/-- A printable text has one line. -/
theorem lineFeed_not_mem_of_allPrintable {cs : List Char} (h : AllPrintable cs) : '\n' ∉ cs :=
  fun hmem => absurd (h '\n' hmem) (by decide +kernel)

variable {c : Char}

/-- A printable character has none of the numbers of other characters. -/
theorem toNat_not_mem_of_isPrintable (h : isPrintable c = true) {ns : List Nat}
    (hns : ∀ n ∈ ns, (if n < 0x7F then decide (0x20 ≤ n) else !inRanges unprintableRanges n)
      = false) : c.toNat ∉ ns := by
  intro hmem
  have hnot := hns _ hmem
  rw [isPrintable] at h
  rw [h] at hnot
  cases hnot

/-- The only printable blank is the space. -/
theorem eq_space_of_isBlank (h : isPrintable c = true) (hblank : isBlank c = true) : c = ' ' := by
  have hother : c.toNat ∉ [0x9, 0xA, 0xB, 0xC, 0xD, 0x1C, 0x1D, 0x1E, 0x1F, 0x85, 0xA0, 0x1680,
      0x2000, 0x2001, 0x2002, 0x2003, 0x2004, 0x2005, 0x2006, 0x2007, 0x2008, 0x2009, 0x200A, 0x2028,
      0x2029, 0x202F, 0x205F, 0x3000] :=
    toNat_not_mem_of_isPrintable h (by decide +kernel)
  have hspace : c.toNat = ' '.toNat := by
    simp only [isBlank, isWhiteSpace, Bool.or_eq_true, Bool.and_eq_true, decide_eq_true_eq,
      beq_iff_eq] at hblank
    simp only [List.mem_cons, List.not_mem_nil, or_false, not_or] at hother
    show c.toNat = 0x20
    omega
  exact Char.toNat_inj.mp hspace

theorem isPrintable_of_isDigit {c : Char} (h : c.isDigit = true) : isPrintable c = true := by
  have hrange : 48 ≤ c.toNat ∧ c.toNat ≤ 57 := by
    simpa [Char.isDigit, UInt32.le_iff_toNat_le] using h
  rw [isPrintable, if_pos (by omega)]
  exact decide_eq_true (by omega)

theorem allPrintable_toString (n : Nat) : AllPrintable (toString n).toList := by
  intro c hc
  rw [Nat.toString_eq_repr, Nat.toList_repr] at hc
  exact isPrintable_of_isDigit (Nat.isDigit_of_mem_toDigits (by decide) (by decide) hc)

end SinkAudit.Text
