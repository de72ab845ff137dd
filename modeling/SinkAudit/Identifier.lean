import SinkAudit.Text.Blank

/-!
# Identifiers

Formats and buckets are named by opaque identifiers: texts that are not empty and have no white space
at their ends. That is all that is asked of them. The rules compare identifiers and never look into them, so
a format that nobody has heard of is as good as any other.

The structure carries the two facts, which is why nothing that takes a snapshot has to check or assume them:
what was accepted once can be written down and is accepted again, and as the same (`ofString?_text`).

- `Identifier.ofString?`: what is left of a string without the white space around it, if anything.
- `Identifier.ofString?_text`: an identifier reads back as itself.
-/

namespace SinkAudit

namespace Text

variable {α : Type} {p : α → Bool}

/-- What is left has nothing more to drop. -/
theorem dropWhile_dropWhile (xs : List α) : (xs.dropWhile p).dropWhile p = xs.dropWhile p := by
  induction xs with
  | nil => rfl
  | cons x xs ih =>
    by_cases h : p x
    · simpa [List.dropWhile_cons, h] using ih
    · simp [h]

/-- A list that a class does not begin still does not after the class is dropped from its end. -/
theorem dropWhile_reverse_dropWhile {xs : List α} (h : xs.dropWhile p = xs) :
    ((xs.reverse.dropWhile p).reverse).dropWhile p = (xs.reverse.dropWhile p).reverse := by
  cases xs with
  | nil => rfl
  | cons x xs =>
    have hx : p x = false := by
      by_cases hp : p x = true
      · exfalso
        have hle : ((x :: xs).dropWhile p).length ≤ xs.length := by
          rw [List.dropWhile_cons_of_pos hp]
          exact (List.dropWhile_suffix p).length_le
        rw [h] at hle
        simp only [List.length_cons] at hle
        omega
      · simpa using hp
    -- the first member is not of the class, so that dropping from the end stops there at the latest
    have : ∃ ys, (xs.reverse ++ [x]).dropWhile p = ys ++ [x] := by
      generalize xs.reverse = zs
      induction zs with
      | nil => exact ⟨[], by simp [hx]⟩
      | cons z zs ih =>
        by_cases hz : p z = true
        · obtain ⟨ys, hys⟩ := ih
          exact ⟨ys, by simpa [List.dropWhile_cons, hz] using hys⟩
        · exact ⟨z :: zs, by simp [hz]⟩
    obtain ⟨ys, hys⟩ := this
    rw [List.reverse_cons, hys]
    simp [hx]

/-- What was trimmed is trimmed. -/
theorem trimBy_trimBy (xs : List α) : trimBy p (trimBy p xs) = trimBy p xs := by
  unfold trimBy
  rw [dropWhile_reverse_dropWhile (dropWhile_dropWhile xs), List.reverse_reverse,
    dropWhile_dropWhile]

@[simp] theorem trimString_trimString (s : String) :
    trimString (trimString s) = trimString s := by
  simp [trimString, trimBy_trimBy]

end Text

/-- A text that is not empty and has no white space at its ends: a string field of a snapshot, which is
stripped when it is read (`str_strip_whitespace`) and has to have a character then (`min_length`). -/
structure Identifier where
  text : String
  trimmed : Text.trimString text = text
  nonempty : text ≠ ""
  deriving DecidableEq

namespace Identifier

/-- What is left of a string without the white space around it, if anything. This is the only way in which
strings become identifiers. -/
def ofString? (s : String) : Option Identifier :=
  if h : Text.trimString s = "" then none else some ⟨Text.trimString s, by simp, h⟩

@[simp] theorem ofString?_text (i : Identifier) : ofString? i.text = some i := by
  obtain ⟨text, trimmed, nonempty⟩ := i
  simp [ofString?, trimmed, nonempty]

@[ext] theorem ext {a b : Identifier} (h : a.text = b.text) : a = b := by
  cases a; cases b; simp at h; subst h; rfl

end Identifier

end SinkAudit
