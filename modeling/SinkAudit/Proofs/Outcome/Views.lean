import SinkAudit.Proofs.Outcome

/-!
# Views of outcomes

An outcome is shown in several ways: whether it is valid, how many violations there are, which fields
are invalid, the violations alone, and a report of all fields. Whatever is appended to an outcome, the
views say the same.

Each view is a loop of its own in the source. What a caller relies on is that they never disagree, whatever
was added before: an exit code that follows `is_valid` and a report that follows `report` must tell the same
story. `ViewsAgree` gathers what that means, and the result holds it of every outcome, also of those that
list fields without messages.

- `violationCount_eq_zero_iff`, `invalidFields_eq_nil_iff`, `violations_eq_nil_iff`: an outcome is valid
  if nothing is counted, no field is invalid, no violation is shown.
- `violationCount_violations`: the violations that are shown are those that are counted.
- `mem_violations_iff`: the violations are the fields of the report that have messages.
- `ViewsAgree`, `addEach_views`: all views agree after any messages.
-/

namespace SinkAudit.Outcome

open OrderedMap

/-! ## Valid outcomes -/

theorem violationCount_eq_zero_iff (o : Outcome) : o.violationCount = 0 ↔ o.isValid = true := by
  rw [violationCount, isValid]
  induction o.errors.toList with
  | nil => exact iff_of_true rfl rfl
  | cons e rest ih =>
    rw [List.foldr_cons, List.all_cons, Bool.and_eq_true, ← ih, Nat.add_eq_zero_iff,
      List.length_eq_zero_iff, List.isEmpty_iff]

theorem violations_eq_nil_iff (o : Outcome) : o.violations.toList = [] ↔ o.isValid = true := by
  rw [isValid, List.all_eq_true]
  refine List.filter_eq_nil_iff.trans (forall₂_congr fun e _ => ?_)
  rw [Bool.not_eq_true', Bool.not_eq_false]

theorem invalidFields_eq_nil_iff (o : Outcome) : o.invalidFields = [] ↔ o.isValid = true := by
  rw [← violations_eq_nil_iff]
  exact List.map_eq_nil_iff

/-! ## Violations -/

/-- Fields without messages add nothing to the count. -/
theorem violationCount_violations (o : Outcome) :
    o.violations.toList.foldr (fun e n => e.2.length + n) 0 = o.violationCount := by
  show (o.errors.toList.filter fun e => !e.2.isEmpty).foldr _ 0 = o.errors.toList.foldr _ 0
  induction o.errors.toList with
  | nil => rfl
  | cons e rest ih =>
    by_cases hempty : e.2 = []
    · rw [List.filter_cons_of_neg (by simp [hempty]), ih, List.foldr_cons, hempty, List.length_nil,
        Nat.zero_add]
    · rw [List.filter_cons_of_pos (by simpa using hempty), List.foldr_cons, List.foldr_cons, ih]

/-- A violation is a field with its messages, if it has some. -/
theorem mem_violations_iff {o : Outcome} {e : String × List String} :
    e ∈ o.violations.toList ↔ e ∈ o.report.toList ∧ e.2 ≠ [] := by
  -- both views are told by the messages of each field, if there are any
  obtain ⟨f, messages⟩ := e
  have hreport : o.report.get? f = some messages ∧ messages ≠ []
      ↔ o.messagesFor f = messages ∧ messages ≠ [] := by
    rw [← getD_report]
    cases o.report.get? f with
    | none => simp
    | some _ => simp
  have hviolations : o.violations.get? f = some messages
      ↔ o.messagesFor f = messages ∧ messages ≠ [] := by
    rw [violations, get?_filter, Option.filter_eq_some_iff, messagesFor]
    cases o.errors.get? f with
    | none => simp
    | some _ => simp
  rw [← get?_eq_some_iff, ← get?_eq_some_iff, hreport, hviolations]

/-! ## All views -/

/-- The views of an outcome say the same. -/
structure ViewsAgree (o : Outcome) : Prop where
  /-- An outcome is valid if it counts no violation, -/
  valid_iff_count : o.isValid = true ↔ o.violationCount = 0
  /-- if no field is invalid, -/
  valid_iff_fields : o.isValid = true ↔ o.invalidFields = []
  /-- and if it shows no violation. -/
  valid_iff_violations : o.isValid = true ↔ o.violations.toList = []
  /-- The invalid fields are those whose violations are shown, in order. -/
  fields_eq : o.invalidFields = o.violations.keys
  /-- As many violations are shown as are counted. -/
  count_eq : o.violations.toList.foldr (fun e n => e.2.length + n) 0 = o.violationCount
  /-- The report lists the known fields and then the others, as they came, each with its messages. -/
  report_eq : o.report.toList
    = (Field.all.map fun f => (f.name, o.messagesFor f.name))
      ++ (o.errors.keys.filter (· ∉ Field.all.map Field.name)).map fun k => (k, o.messagesFor k)
  /-- Where the report has messages, it shows the violations. -/
  violations_eq : ∀ e, e ∈ o.violations.toList ↔ e ∈ o.report.toList ∧ e.2 ≠ []

theorem viewsAgree (o : Outcome) : o.ViewsAgree where
  valid_iff_count := o.violationCount_eq_zero_iff.symm
  valid_iff_fields := o.invalidFields_eq_nil_iff.symm
  valid_iff_violations := o.violations_eq_nil_iff.symm
  fields_eq := rfl
  count_eq := o.violationCount_violations
  report_eq := o.toList_report_eq_append
  violations_eq := fun _ => mem_violations_iff

/-- Whatever messages are appended to whatever outcome, in the end every field has the messages that it
had and then those that were appended to it, in order and as often as they were. New fields come behind
the others in the order of their first messages, and all views agree. -/
theorem addEach_views (o : Outcome) (posts : List (String × String)) :
    (∀ f, (o.addEach posts).messagesFor f
        = o.messagesFor f ++ (posts.filter (·.1 == f)).map Prod.snd)
      ∧ (o.addEach posts).errors.keys
        = o.errors.keys ++ ((posts.map Prod.fst).filter (· ∉ o.errors.keys)).eraseDups
      ∧ (o.addEach posts).ViewsAgree :=
  ⟨o.messagesFor_addEach posts, o.keys_addEach posts, (o.addEach posts).viewsAgree⟩

end SinkAudit.Outcome
