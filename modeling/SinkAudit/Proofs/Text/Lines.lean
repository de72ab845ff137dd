import Mathlib.Data.List.Basic
import SinkAudit.Text.Blank

/-!
# Joined texts and line breaks

- `forall_mem_intercalate`: a joined text has no characters but those of its parts.
- `intercalate_eq_of_mem`: where a part of a joined text stands.
- `not_mem_of_mem_splitOn`, `subset_of_mem_lines`: the pieces between separators.
- `normalizeBreaks_of_not_mem`: a text without carriage returns is read as it is.
-/

namespace SinkAudit.Text

/-- What holds of the separator and of all texts holds of the joined text. -/
theorem forall_mem_intercalate {P : Char → Prop} {separator : List Char} {texts : List (List Char)}
    (hseparator : ∀ c ∈ separator, P c) (htexts : ∀ text ∈ texts, ∀ c ∈ text, P c) :
    ∀ c ∈ List.intercalate separator texts, P c := by
  induction texts with
  | nil => exact nofun
  | cons text rest ih =>
    obtain ⟨htext, hrest⟩ := List.forall_mem_cons.mp htexts
    cases rest with
    | nil =>
      rw [List.intercalate_singleton]
      exact htext
    | cons next rest =>
      rw [List.intercalate_cons_cons]
      intro c hc
      rcases List.mem_append.mp hc with hc | hc
      · exact (List.mem_append.mp hc).elim (htext c) (hseparator c)
      · exact ih hrest c hc

/-- A part of a joined text stands in it, and ends where the whole text ends or a separator stands. -/
theorem intercalate_eq_of_mem {separator : Char} {texts : List (List Char)} {text : List Char}
    (h : text ∈ texts) :
    ∃ before after, [separator].intercalate texts = before ++ (text ++ after)
      ∧ ∀ c ∈ after.head?, c = separator := by
  induction texts with
  | nil => cases h
  | cons first rest ih =>
    cases rest with
    | nil =>
      cases List.mem_singleton.mp h
      refine ⟨[], [], ?_, nofun⟩
      rw [List.intercalate_singleton, List.append_nil, List.nil_append]
    | cons next rest =>
      rw [List.intercalate_cons_cons]
      -- the text is the first one, and a separator follows, or it is found among the others
      rcases List.mem_cons.mp h with rfl | hrest
      · refine ⟨[], separator :: [separator].intercalate (next :: rest), ?_, ?_⟩
        · rw [List.nil_append, List.append_assoc, List.singleton_append]
        · rintro c ⟨⟩
          rfl
      · obtain ⟨before, after, heq, hafter⟩ := ih hrest
        refine ⟨first ++ [separator] ++ before, after, ?_, hafter⟩
        rw [heq, List.append_assoc (first ++ [separator])]

/-- The pieces between separators hold no separator. -/
theorem not_mem_of_mem_splitOn {x : Char} {cs : List Char} :
    ∀ piece ∈ cs.splitOn x, x ∉ piece := by
  induction cs with
  | nil =>
    intro piece hpiece
    rw [List.splitOn_nil, List.mem_singleton] at hpiece
    rw [hpiece]
    exact List.not_mem_nil
  | cons c cs ih =>
    rw [List.splitOn_cons_eq_if_modifyHead]
    split
    · exact List.forall_mem_cons.mpr ⟨List.not_mem_nil, ih⟩
    · next hc =>
      cases hpieces : cs.splitOn x with
      | nil => exact nofun
      | cons piece pieces =>
        rw [hpieces] at ih
        obtain ⟨hpiece, hrest⟩ := List.forall_mem_cons.mp ih
        rw [List.modifyHead_cons]
        refine List.forall_mem_cons.mpr ⟨?_, hrest⟩
        exact List.not_mem_cons_of_ne_of_not_mem (fun h => hc (by simp [h])) hpiece

/-- A line of a text stands in it. -/
theorem subset_of_mem_lines {cs line : List Char} (h : line ∈ lines cs) : line ⊆ cs := by
  obtain ⟨before, after, htext, -⟩ := intercalate_eq_of_mem h
  rw [lines, List.intercalate_splitOn] at htext
  rw [htext]
  exact List.subset_append_of_subset_right _ (List.subset_append_left _ _)

/-- A text without carriage returns is read as it is. -/
theorem normalizeBreaks_of_not_mem {cs : List Char} (h : '\r' ∉ cs) : normalizeBreaks cs = cs := by
  induction cs with
  | nil => rfl
  | cons c rest ih =>
    have hc : c ≠ '\r' := fun hreturn => h (hreturn ▸ List.mem_cons_self)
    have hrest : '\r' ∉ rest := fun hmem => h (List.mem_cons_of_mem _ hmem)
    rw [normalizeBreaks, ih hrest]
    · exact fun _ hreturn => absurd hreturn hc
    · exact hc

end SinkAudit.Text
