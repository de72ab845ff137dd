import SinkAudit.Proofs.Json.Strings
import SinkAudit.Proofs.Text.Lines

/-!
# Written documents are ASCII

Whatever texts a document holds, it is written in printable ASCII and line feeds. So it takes one byte
for each character, and no line of it is broken anew when it is read from a file.

The reader of files decodes UTF-8 and turns every kind of line end into a line feed before the notation is
looked at. Both do nothing to what is written here, which is what lets a stored report be read back without a
word about encodings.

- `IsReadable`: the characters that documents are written in.
- `isReadable_quoted`: those of a quoted string.
- `isReadable_writeAt`: those of a document.
- `return_not_mem_write`: there is no carriage return among them.
-/

namespace SinkAudit.Json

/-- Is the character printable ASCII or a line feed? -/
def IsReadable (c : Char) : Prop := c = '\n' ∨ 0x20 ≤ c.toNat ∧ c.toNat < 0x7F

instance : DecidablePred IsReadable := fun _ => inferInstanceAs (Decidable (_ ∨ _))

/-- Text of the program's own is checked by running over it. -/
theorem isReadable_of_all {cs : List Char} (h : cs.all (decide <| IsReadable ·) = true) :
    ∀ c ∈ cs, IsReadable c :=
  fun c hc => of_decide_eq_true (List.all_eq_true.mp h c hc)

/-! ## Strings -/

/-- The escape of a UTF-16 unit. -/
theorem isReadable_unitEscape {n : Nat} (hn : n < 0x10000) : ∀ c ∈ unitEscape n, IsReadable c := by
  have hdigit : ∀ d < 16, IsReadable (Nat.digitChar d) := by decide
  rw [unitEscape, Text.digitsOf_four hn]
  simp only [List.forall_mem_cons]
  exact ⟨by decide, by decide, hdigit _ (by omega), hdigit _ (by omega), hdigit _ (by omega),
    hdigit _ (by omega), List.forall_mem_nil _⟩

/-- A character inside quotes. -/
theorem isReadable_quotedChar (c : Char) : ∀ d ∈ quotedChar c, IsReadable d := by
  unfold quotedChar
  -- a quote or a backslash, five short escapes, printable ASCII, and anything else by its units
  split
  · next hc => rcases hc with rfl | rfl <;> exact isReadable_of_all (by decide)
  split
  · exact isReadable_of_all (by decide)
  split
  · exact isReadable_of_all (by decide)
  split
  · exact isReadable_of_all (by decide)
  split
  · exact isReadable_of_all (by decide)
  split
  · exact isReadable_of_all (by decide)
  split
  · next hprintable => exact List.forall_mem_singleton.mpr (.inr hprintable)
  · intro d hd
    obtain ⟨n, hn, hd⟩ := List.mem_flatMap.mp hd
    rw [units_eq_points] at hn
    obtain ⟨p, hp, rfl⟩ := List.mem_map.mp hn
    exact isReadable_unitEscape (toNat_lt_of_mem_points hp) d hd

theorem isReadable_quoted (s : String) : ∀ c ∈ quoted s, IsReadable c := by
  intro c hc
  rcases List.mem_append.mp hc with hc | hc
  · rcases List.mem_cons.mp hc with rfl | hc
    · decide
    · obtain ⟨d, -, hc⟩ := List.mem_flatMap.mp hc
      exact isReadable_quotedChar d c hc
  · rw [List.mem_singleton.mp hc]
    decide

/-! ## Documents -/

theorem isReadable_newLine (level : Nat) : ∀ c ∈ newLine level, IsReadable c := by
  intro c hc
  rcases List.mem_cons.mp hc with rfl | hc
  · decide
  · rw [List.eq_of_mem_replicate hc]
    decide

/-- Entries between brackets. -/
theorem isReadable_bracketed {left right : Char} (hleft : IsReadable left)
    (hright : IsReadable right) (level : Nat) {entries : List (List Char)}
    (h : ∀ entry ∈ entries, ∀ c ∈ entry, IsReadable c) :
    ∀ c ∈ bracketed left right level entries, IsReadable c := by
  have hcomma : ∀ c ∈ ',' :: newLine (level + 1), IsReadable c :=
    List.forall_mem_cons.mpr ⟨by decide, isReadable_newLine _⟩
  unfold bracketed
  split
  · exact List.forall_mem_cons.mpr ⟨hleft, List.forall_mem_singleton.mpr hright⟩
  · simp only [List.cons_append, List.forall_mem_cons, List.forall_mem_append]
    exact ⟨hleft, ⟨⟨isReadable_newLine _, Text.forall_mem_intercalate hcomma h⟩,
      isReadable_newLine _⟩, hright, List.forall_mem_nil _⟩

-- The recursion is that of the writers: items and entries are smaller than what holds them.
mutual

/-- A document at any level. -/
theorem isReadable_writeAt : ∀ (t : Tree) (level : Nat), ∀ c ∈ t.writeAt level, IsReadable c
  | .flag b, level => by
    rw [Tree.writeAt]
    cases b <;> exact isReadable_of_all (by decide)
  | .text s, level => by
    rw [Tree.writeAt]
    exact isReadable_quoted s
  | .list items, level => by
    rw [Tree.writeAt]
    exact isReadable_bracketed (by decide) (by decide) level (isReadable_writeItems items _)
  | .object entries, level => by
    rw [Tree.writeAt]
    exact isReadable_bracketed (by decide) (by decide) level (isReadable_writeEntries entries _)

/-- The items of a list. -/
theorem isReadable_writeItems : ∀ (ts : List Tree) (level : Nat),
    ∀ item ∈ Tree.writeItems level ts, ∀ c ∈ item, IsReadable c
  | [], level => by
    rw [Tree.writeItems]
    exact List.forall_mem_nil _
  | t :: rest, level => by
    rw [Tree.writeItems]
    exact List.forall_mem_cons.mpr ⟨isReadable_writeAt t level, isReadable_writeItems rest level⟩

/-- The entries of an object. -/
theorem isReadable_writeEntries : ∀ (es : List (String × Tree)) (level : Nat),
    ∀ entry ∈ Tree.writeEntries level es, ∀ c ∈ entry, IsReadable c
  | [], level => by
    rw [Tree.writeEntries]
    exact List.forall_mem_nil _
  | (k, t) :: rest, level => by
    rw [Tree.writeEntries]
    refine List.forall_mem_cons.mpr ⟨?_, isReadable_writeEntries rest level⟩
    simp only [List.forall_mem_append, List.forall_mem_cons]
    exact ⟨isReadable_quoted k, by decide, by decide, isReadable_writeAt t level⟩

end

/-- A written document holds no carriage return. -/
theorem return_not_mem_write (t : Tree) : '\r' ∉ t.write.toList := by
  intro hmem
  rw [Tree.write, String.toList_ofList] at hmem
  exact absurd (isReadable_writeAt t 0 '\r' hmem) (by decide)

end SinkAudit.Json
