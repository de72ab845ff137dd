import SinkAudit.Proofs.Snapshot.Reading

/-!
# Rejections

Every field is judged on its own, by its raw value alone. A rejection lists what was found wrong, in the
order of the fields.

The source leaves this to the validation library, which runs every field's validator and gathers the
errors before it raises. Nothing stops at the first error, and no validator sees another field.

- `fieldErrors`: the problems of all fields.
- `Snapshot.ofGiven_eq_error_iff`: raw values are rejected for all of these, if there are any.
- `Snapshot.ofGiven_congr`: raw values that are judged alike make the same snapshot or the same
  rejection.
-/

namespace SinkAudit

/-- The errors of all fields, in report order. -/
def fieldErrors (given : Field → Option Given) : List FieldError :=
  Field.all.flatMap fun f => errorOf (f.judge (given f))

theorem errorOf_map {ε α β : Type} (g : α → β) (x : Except ε α) : errorOf (x.map g) = errorOf x := by
  cases x <;> rfl

theorem errorOf_eq_nil_iff {ε α : Type} {x : Except ε α} :
    errorOf x = [] ↔ ∃ a, x.toOption = some a := by
  cases x with
  | ok a => exact iff_of_true rfl ⟨a, rfl⟩
  | error e => exact iff_of_false (List.cons_ne_nil _ _) nofun

theorem mem_errorOf_iff {ε α : Type} {x : Except ε α} {e : ε} : e ∈ errorOf x ↔ x = .error e := by
  cases x with
  | ok a => exact iff_of_false nofun nofun
  | error e' => rw [errorOf, List.mem_singleton, Except.error.injEq, eq_comm]

/-! ## Errors name their fields -/

variable {given given' : Field → Option Given} {f : Field} {e : FieldError}

theorem field_of_judge_eq_error {given : Option Given} (h : f.judge given = .error e) :
    e.field = f := by
  unfold Field.judge at h
  split at h
  · obtain ⟨p, -, rfl⟩ := mapError_eq_error_iff.mp h
    rfl
  · split at h
    · cases h
    · cases h
      rfl

theorem mem_fieldErrors_iff : e ∈ fieldErrors given ↔ e.field.judge (given e.field) = .error e := by
  simp only [fieldErrors, List.mem_flatMap, mem_errorOf_iff]
  constructor
  · rintro ⟨f, -, h⟩
    rw [field_of_judge_eq_error h]
    exact h
  · exact fun h => ⟨e.field, e.field.mem_all, h⟩

/-- Every field has one error at most, and errors are in the order of the fields. -/
theorem map_field_fieldErrors_sublist (given : Field → Option Given) :
    ((fieldErrors given).map FieldError.field).Sublist Field.all := by
  rw [fieldErrors]
  induction Field.all with
  | nil => exact .slnil
  | cons f rest ih =>
    rw [List.flatMap_cons, List.map_append]
    cases hjudge : f.judge (given f) with
    | ok t => exact ih.cons f
    | error e =>
      rw [errorOf, List.map_singleton, field_of_judge_eq_error hjudge]
      exact ih.cons_cons f

/-- The errors of one field are what it is judged to be. -/
theorem filter_fieldErrors (given : Field → Option Given) (f : Field) :
    (fieldErrors given).filter (·.field = f) = errorOf (f.judge (given f)) := by
  have hone : ∀ g : Field, (errorOf (g.judge (given g))).filter (·.field = f)
      = if g = f then errorOf (g.judge (given g)) else [] := by
    intro g
    cases hjudge : g.judge (given g) with
    | ok t => exact (ite_self _).symm
    | error e =>
      simp only [errorOf, List.filter_cons, List.filter_nil, field_of_judge_eq_error hjudge,
        decide_eq_true_eq]
  rw [fieldErrors, List.filter_flatMap]
  simp only [hone]
  cases f <;> simp [Field.all]

namespace Snapshot

variable {r : Rejection}

/-- There is no error exactly if the raw values make a snapshot. -/
theorem fieldErrors_eq_nil_iff : fieldErrors given = [] ↔ ∃ s, ofGiven given = .ok s := by
  rw [exists_ofGiven_iff, fieldErrors, List.flatMap_eq_nil_iff]
  simp only [errorOf_eq_nil_iff, Field.settled?_eq]
  exact ⟨fun h f => h f f.mem_all, fun h f _ => h f⟩

variable (given) in
/-- The errors are those of the seven parts of a snapshot. -/
theorem fieldErrors_eq_parts :
    fieldErrors given
      = errorOf (identifierOf given none .dataFormat) ++ errorOf (flagOf given .storeKeys)
        ++ errorOf (identifierOf given (some .avro) .keysFormat)
        ++ errorOf (flagOf given .storeHeaders)
        ++ errorOf (identifierOf given (some .avro) .headersFormat)
        ++ errorOf (codecOf given) ++ errorOf (identifierOf given none .bucket) := by
  obtain ⟨ha, hb, hc, hd, he, hf, hg⟩ := judge_parts given
  simp only [fieldErrors, Field.all, List.flatMap_cons, List.flatMap_nil, List.append_nil,
    List.append_assoc, ha, hb, hc, hd, he, hf, hg, errorOf_map]

/-- A rejection lists the errors of all fields. -/
theorem errors_of_ofGiven_eq_error (h : ofGiven given = .error r) : r.errors = fieldErrors given := by
  simp only [ofGiven] at h
  split at h
  · cases h
  · cases h
    exact (fieldErrors_eq_parts given).symm

/-- Raw values are rejected exactly if a field has an error, and for the errors of all fields. -/
theorem ofGiven_eq_error_iff :
    ofGiven given = .error r ↔ r.errors = fieldErrors given ∧ fieldErrors given ≠ [] := by
  constructor
  · intro h
    refine ⟨errors_of_ofGiven_eq_error h, fun hnone => ?_⟩
    obtain ⟨s, hs⟩ := fieldErrors_eq_nil_iff.mp hnone
    rw [h] at hs
    cases hs
  · rintro ⟨herrors, hsome⟩
    cases hgiven : ofGiven given with
    | ok s => exact absurd (fieldErrors_eq_nil_iff.mpr ⟨s, hgiven⟩) hsome
    | error r' =>
      -- a rejection is its list of errors, with a proof that there is one
      have hsame : r'.errors = r.errors := by rw [errors_of_ofGiven_eq_error hgiven, herrors]
      cases r
      cases r'
      exact congrArg (fun errors => Except.error (Rejection.mk errors)) hsame

/-- Raw values that are judged alike make the same. -/
theorem ofGiven_congr (h : ∀ f : Field, f.judge (given f) = f.judge (given' f)) :
    ofGiven given = ofGiven given' := by
  cases hgiven : ofGiven given with
  | ok s =>
    refine (ofGiven_eq_ok_iff.mpr fun f => ?_).symm
    rw [Field.settled?_eq, ← h f, ← Field.settled?_eq]
    exact ofGiven_eq_ok_iff.mp hgiven f
  | error r =>
    have herrors : fieldErrors given' = fieldErrors given := by simp only [fieldErrors, h]
    refine (ofGiven_eq_error_iff.mpr ?_).symm
    rw [herrors]
    exact ofGiven_eq_error_iff.mp hgiven

end Snapshot

end SinkAudit
