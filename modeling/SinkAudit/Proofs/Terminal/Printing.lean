import SinkAudit.Proofs.Terminal.Rendering
import SinkAudit.Terminal.Table

/-!
# What is printed

- `isOk_paragraph`, `isOk_print_iff`: lines and tables are printed exactly if their markup can be
  rendered.
- `exists_paragraph_eq`: a line begins as its markup is shown to begin.
-/

namespace SinkAudit.Terminal

open Markup

theorem isOk_paragraph (markup : List Char) : (paragraph markup).isOk = (render markup).isOk := by
  rw [paragraph, isOk_map, display, isOk_map]

/-- Results are collected exactly if there are all of them. -/
theorem isOk_collect_iff {α β ε : Type} (f : α → Except ε β) (xs : List α) :
    (collect f xs).isOk = true ↔ ∀ a ∈ xs, (f a).isOk = true := by
  induction xs with
  | nil => simp [collect, Except.isOk, Except.toBool]
  | cons a rest ih =>
    rw [collect, List.forall_mem_cons, ← ih]
    cases f a with
    | error e => simp [Except.isOk, Except.toBool]
    | ok b =>
      rw [isOk_map]
      simp [Except.isOk, Except.toBool]

/-- A table is printed exactly if every cell can be rendered. -/
theorem isOk_print_iff (t : Table) :
    t.print.isOk = true ↔ ∀ c ∈ t.columns, ∀ cell ∈ c.cells, (render cell).isOk = true := by
  rw [Table.print, isOk_map, isOk_collect_iff]
  refine forall₂_congr fun c _ => ?_
  rw [ShownColumn.ofMarkup, isOk_map, isOk_collect_iff]
  simp only [display, isOk_map]

/-! ## How a line begins -/

/-- A text that is parted behind its beginning keeps the beginning in the first part. -/
theorem exists_splitOn_eq {a : Char} {pre : List Char} (h : ∀ c ∈ pre, c ≠ a) (rest : List Char) :
    ∃ first others, (pre ++ rest).splitOn a = (pre ++ first) :: others := by
  induction pre with
  | nil =>
    cases hsplit : rest.splitOn a with
    | nil => exact absurd hsplit (List.splitOn_ne_nil _ _)
    | cons first others => exact ⟨first, others, hsplit⟩
  | cons c pre ih =>
    obtain ⟨hc, hpre⟩ := List.forall_mem_cons.mp h
    obtain ⟨first, others, hsplit⟩ := ih hpre
    refine ⟨first, others, ?_⟩
    rw [List.cons_append, List.splitOn_cons_eq_if_modifyHead, if_neg (by simpa using hc), hsplit]
    rfl

/-- The beginning of a line stays in front of its tabs. -/
theorem prefix_expandTabs {pre : List Char} (h : ∀ c ∈ pre, c ≠ '\t') (rest : List Char) :
    pre <+: expandTabs (pre ++ rest) := by
  obtain ⟨first, others, hsplit⟩ := exists_splitOn_eq h rest
  rw [expandTabs, hsplit]
  cases others with
  | nil => exact List.prefix_append pre first
  | cons part others =>
    simp only [joinTabbed, List.append_assoc]
    exact List.prefix_append _ _

/-- A character that is printed as it is: no control character and no tab. -/
def IsSteady (c : Char) : Prop := isDropped c = false ∧ c ≠ '\n' ∧ c ≠ '\t'

instance (c : Char) : Decidable (IsSteady c) :=
  inferInstanceAs (Decidable (isDropped c = false ∧ c ≠ '\n' ∧ c ≠ '\t'))

/-- A line begins as its markup is shown to begin. -/
theorem exists_paragraph_eq {markup pre shown : List Char} (hpre : ∀ c ∈ pre, IsSteady c)
    (hshown : render markup = .ok (pre ++ shown)) :
    ∃ rest, paragraph markup = .ok (String.ofList pre ++ rest) := by
  -- dropping characters, parting lines and widening tabs all leave the beginning alone
  have hkept : (pre ++ shown).filter (!isDropped ·) = pre ++ shown.filter (!isDropped ·) := by
    rw [List.filter_append, List.filter_eq_self.mpr fun c hc => by rw [(hpre c hc).1]; rfl]
  obtain ⟨first, others, hlines⟩ := exists_splitOn_eq (fun c hc => (hpre c hc).2.1)
    (shown.filter (!isDropped ·))
  obtain ⟨more, hmore⟩ := prefix_expandTabs (fun c hc => (hpre c hc).2.2) first
  refine ⟨String.ofList (more ++ '\n' :: (others.map expandTabs).flatMap (· ++ ['\n'])), ?_⟩
  rw [paragraph, display, hshown]
  simp only [Except.map, hkept, Text.lines, hlines, List.map_cons, ← hmore, printLines,
    List.flatMap_cons, List.append_assoc, List.singleton_append, String.ofList_append]

end SinkAudit.Terminal
