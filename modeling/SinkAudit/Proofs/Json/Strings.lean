import SinkAudit.Json.Reader
import SinkAudit.Json.Writer

/-!
# Written strings are read back

A character beyond ASCII is written as the escapes of its UTF-16 units, and every escape is read
as a code point of its own. Halves of a pair are joined once the whole string is read; since a
string holds no lone half, nothing else is ever joined.

The text of a document is in quotes wherever the user's texts stand in it. So it is here that it is decided
whether a text can break out of its quotes or come back changed: it cannot, for any string.

- `digitsOf_four`: a UTF-16 unit has four hexadecimal digits, which spell it.
- `points`: the code points that a character is written as; `joinPairs_points`: joined again they
  are the character.
- `readString_quoted`: a quoted string is read as the text of the string.
-/

namespace SinkAudit

open Text

/-! ## Units -/

/-- The last digit of a number, and the digits before it. -/
theorem Text.digitsOf_succ {base : Nat} (hbase : 1 < base) (width n : Nat) (hwidth : 0 < width) :
    digitsOf base (width + 1) n = digitsOf base width (n / base) ++ [Nat.digitChar (n % base)] := by
  simp only [digitsOf]
  by_cases hn : n < base
  · rw [Nat.toDigits_of_lt_base hn, Nat.div_eq_of_lt hn, Nat.toDigits_zero, Nat.mod_eq_of_lt hn,
      List.length_singleton, List.length_singleton, Nat.add_sub_cancel]
    obtain ⟨k, rfl⟩ : ∃ k, width = k + 1 := ⟨width - 1, by omega⟩
    rw [Nat.add_sub_cancel, List.replicate_succ']
  · rw [Nat.toDigits_of_base_le hbase (Nat.le_of_not_lt hn), List.length_append,
      List.length_singleton, Nat.add_sub_add_right, List.append_assoc]

/-- The four digits of a UTF-16 unit. -/
theorem Text.digitsOf_four {n : Nat} (hn : n < 0x10000) :
    digitsOf 16 4 n = [Nat.digitChar (n / 4096), Nat.digitChar (n / 256 % 16),
      Nat.digitChar (n / 16 % 16), Nat.digitChar (n % 16)] := by
  have hfirst : digitsOf 16 1 (n / 16 / 16 / 16) = [Nat.digitChar (n / 4096)] := by
    rw [digitsOf, Nat.toDigits_of_lt_base (by omega), List.length_singleton, Nat.sub_self,
      Nat.div_div_eq_div_mul, Nat.div_div_eq_div_mul]
    rfl
  rw [digitsOf_succ (by decide) 3 n (by decide), digitsOf_succ (by decide) 2 _ (by decide),
    digitsOf_succ (by decide) 1 _ (by decide), hfirst, Nat.div_div_eq_div_mul]
  rfl

theorem Text.hexDigit?_digitChar : ∀ d < 16, hexDigit? (Nat.digitChar d) = some d := by decide

/-- The digits of a UTF-16 unit spell it. -/
theorem PropertiesFile.fourDigits?_digits {n : Nat} (hn : n < 0x10000) :
    fourDigits? (Nat.digitChar (n / 4096)) (Nat.digitChar (n / 256 % 16))
      (Nat.digitChar (n / 16 % 16)) (Nat.digitChar (n % 16)) = CodePoint.ofNat? n := by
  have hvalue : numberOf 16 [n / 4096, n / 256 % 16, n / 16 % 16, n % 16] = n := by
    simp only [numberOf, List.foldl_cons, List.foldl_nil]
    omega
  rw [fourDigits?, hexDigit?_digitChar _ (by omega), hexDigit?_digitChar _ (by omega),
    hexDigit?_digitChar _ (by omega), hexDigit?_digitChar _ (by omega)]
  simp only [hvalue]

namespace CodePoint

theorem ofNat?_toNat (c : Char) : ofNat? c.toNat = some (scalar c) := by
  have hvalid : c.toNat.isValidChar := c.valid
  rw [ofNat?, dif_pos hvalid]
  rfl

theorem ofNat?_surrogate (k : Fin 0x800) : ofNat? (0xD800 + k.val) = some (surrogate k) := by
  have hk := k.isLt
  have hinvalid : ¬ (0xD800 + k.val).isValidChar := by
    unfold Nat.isValidChar
    omega
  rw [ofNat?, dif_neg hinvalid, dif_pos (by omega)]
  simp

end CodePoint

namespace Json

/-- The code points that a character is written as: itself, or the two halves of a pair. -/
def points (c : Char) : List CodePoint :=
  let n := c.toNat
  if n < 0x10000 then [.scalar c]
  else [.surrogate ⟨(n - 0x10000) / 0x400 % 0x400, by omega⟩,
    .surrogate ⟨0x400 + (n - 0x10000) % 0x400, by omega⟩]

theorem toNat_lt (c : Char) : c.toNat < 0x110000 := by
  have hvalid : c.toNat.isValidChar := c.valid
  unfold Nat.isValidChar at hvalid
  omega

/-- The units of a character are those of its code points. -/
theorem units_eq_points (c : Char) : units c = (points c).map CodePoint.toNat := by
  have hlt := toNat_lt c
  unfold units points
  by_cases hn : c.toNat < 0x10000
  · rw [if_pos hn, if_pos hn]
    rfl
  · rw [if_neg hn, if_neg hn]
    simp only [List.map_cons, List.map_nil, CodePoint.toNat, List.cons.injEq, and_true]
    omega

/-- Halves of pairs are joined to the characters that they were written for. -/
theorem joinPairs_points (cs : List Char) :
    joinPairs (cs.flatMap points) = cs.map CodePoint.scalar := by
  induction cs with
  | nil => rfl
  | cons c cs ih =>
    rw [List.flatMap_cons, List.map_cons, points]
    have hlt := toNat_lt c
    by_cases hn : c.toNat < 0x10000
    · rw [if_pos hn, List.singleton_append, joinPairs, ih]
      simp
    · rw [if_neg hn, List.cons_append, List.singleton_append, joinPairs, ih]
      dsimp only
      -- the first half is a high one and the second a low one, whatever the character is
      rw [if_pos (by omega)]
      have hchar : 0x10000 + (c.toNat - 0x10000) / 0x400 % 0x400 * 0x400
          + (0x400 + (c.toNat - 0x10000) % 0x400 - 0x400) = c.toNat := by omega
      rw [hchar, Char.ofNat_toNat]

/-! ## Strings -/

/-- The escape of a unit is read as its code point, as long as anything follows. -/
theorem readUnits_unitEscape (start : List Char) {p : CodePoint} (hp : p.toNat < 0x10000)
    {tail : List Char} (htail : tail ≠ []) :
    readUnits start (unitEscape p.toNat ++ tail)
      = (readUnits start tail).map fun found => (p :: found.1, found.2) := by
  have hpoint : CodePoint.ofNat? p.toNat = some p := by
    cases p with
    | scalar c => exact CodePoint.ofNat?_toNat c
    | surrogate k => exact CodePoint.ofNat?_surrogate k
  obtain ⟨e, rest, rfl⟩ := List.exists_cons_of_ne_nil htail
  rw [unitEscape, digitsOf_four hp]
  simp only [List.cons_append, List.nil_append]
  rw [readUnits, PropertiesFile.fourDigits?_digits hp, hpoint]

theorem points_of_lt {c : Char} (h : c.toNat < 0x10000) : points c = [.scalar c] := if_pos h

/-- A short escape is read as the character that it stands for. -/
theorem readUnits_shortEscape (start : List Char) {e c : Char} (he : e ≠ 'u')
    (hc : shortEscape? e = some c) (tail : List Char) :
    readUnits start ('\\' :: e :: tail)
      = (readUnits start tail).map fun found => (.scalar c :: found.1, found.2) := by
  simp [readUnits, he, hc]

/-- A character that is no quote, backslash or control character stands for itself. -/
theorem readUnits_plain (start : List Char) {c : Char} (hquote : c ≠ '"') (hslash : c ≠ '\\')
    (hcontrol : 0x20 ≤ c.toNat) (tail : List Char) :
    readUnits start (c :: tail)
      = (readUnits start tail).map fun found => (.scalar c :: found.1, found.2) := by
  rw [readUnits]
  · rw [if_neg (by omega)]
  · exact hquote
  all_goals simp [hslash]

/-- The escapes of code points are read as these. -/
theorem readUnits_flatMap_unitEscape (start : List Char) {ps : List CodePoint}
    (hps : ∀ p ∈ ps, p.toNat < 0x10000) {tail : List Char} (htail : tail ≠ []) :
    readUnits start ((ps.map CodePoint.toNat).flatMap unitEscape ++ tail)
      = (readUnits start tail).map fun found => (ps ++ found.1, found.2) := by
  induction ps with
  | nil =>
    simp only [List.map_nil, List.flatMap_nil, List.nil_append]
    cases readUnits start tail <;> rfl
  | cons p ps ih =>
    obtain ⟨hp, hrest⟩ := List.forall_mem_cons.mp hps
    rw [List.map_cons, List.flatMap_cons, List.append_assoc,
      readUnits_unitEscape start hp (by simp [htail]), ih hrest]
    cases readUnits start tail <;> rfl

/-- Every code point that a character is written as is one UTF-16 unit. -/
theorem toNat_lt_of_mem_points {c : Char} {p : CodePoint} (hp : p ∈ points c) :
    p.toNat < 0x10000 := by
  unfold points at hp
  by_cases hn : c.toNat < 0x10000
  · rw [if_pos hn, List.mem_singleton] at hp
    rw [hp]
    exact hn
  · rw [if_neg hn] at hp
    cases p with
    | scalar d => simp at hp
    | surrogate k =>
      have := k.isLt
      show 0xD800 + k.val < 0x10000
      omega

/-- A character inside quotes is read as its code points. -/
theorem readUnits_quotedChar (start : List Char) (c : Char) {tail : List Char} (htail : tail ≠ []) :
    readUnits start (quotedChar c ++ tail)
      = (readUnits start tail).map fun found => (points c ++ found.1, found.2) := by
  unfold quotedChar
  -- a quote or a backslash, five short escapes, printable ASCII, and anything else by its units
  split
  · next hc =>
    rcases hc with rfl | rfl
    · exact readUnits_shortEscape start (by decide) (by decide) tail
    · exact readUnits_shortEscape start (by decide) (by decide) tail
  split
  · next hc => subst hc; exact readUnits_shortEscape start (by decide) (by decide) tail
  split
  · next hc => subst hc; exact readUnits_shortEscape start (by decide) (by decide) tail
  split
  · next hc => subst hc; exact readUnits_shortEscape start (by decide) (by decide) tail
  split
  · next hc => subst hc; exact readUnits_shortEscape start (by decide) (by decide) tail
  split
  · next hc => subst hc; exact readUnits_shortEscape start (by decide) (by decide) tail
  split
  · next hquoted _ _ _ _ _ hc =>
    rw [points_of_lt (by omega)]
    exact readUnits_plain start (fun h => hquoted (.inl h)) (fun h => hquoted (.inr h)) hc.1 tail
  · rw [units_eq_points]
    exact readUnits_flatMap_unitEscape start (fun p hp => toNat_lt_of_mem_points hp) htail

/-- Characters inside quotes are read up to the closing one. -/
theorem readUnits_quoted (start cs rest : List Char) :
    readUnits start (cs.flatMap quotedChar ++ '"' :: rest) = .ok (cs.flatMap points, rest) := by
  induction cs with
  | nil => rfl
  | cons c cs ih =>
    rw [List.flatMap_cons, List.append_assoc, readUnits_quotedChar start c (by simp), ih,
      List.flatMap_cons]
    rfl

/-- A quoted string is read as the text of the string. -/
theorem readString_quoted (s : String) (rest : List Char) :
    readString (s.toList.flatMap quotedChar ++ '"' :: rest) = .ok (ofString s, rest) := by
  rw [readString, readUnits_quoted]
  show Except.ok (joinPairs (s.toList.flatMap points), rest) = _
  rw [joinPairs_points]
  rfl

end Json

end SinkAudit
