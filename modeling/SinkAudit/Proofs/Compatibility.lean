import SinkAudit.Compatibility
import SinkAudit.Proofs.Outcome

/-!
# Violations of the compatibility rules

Every failing role leaves one message, under the fields of the role and under the compression.

`evaluate` is a loop over three roles with an outcome that is added to. What is proved about it here is
stated by field, so that the results elsewhere need not know the loop.

- `messagesFor_evaluate`: the messages of a field are those of the failing roles that are reported
  there.
- `evaluate_induction`: what holds of all outcomes that are built message by message.
- `isValid_evaluate_iff`, `failingRoles_eq_nil_iff`: when there are none.
- `length_messagesFor_evaluate_le`: only under the compression may messages of several roles stand.
-/

namespace SinkAudit

open Outcome

namespace Role

/-- The fields that a failing role is reported under. -/
def reportedFields (r : Role) : List Field := r.fields ++ [.compression]

theorem nodup_reportedFields (r : Role) : r.reportedFields.Nodup := by cases r <;> decide

theorem compression_mem_reportedFields (r : Role) : Field.compression ∈ r.reportedFields :=
  List.mem_append_right _ List.mem_cons_self

end Role

/-- The message of a failing role. -/
def roleMessage (p : Policy) (s : Snapshot) (r : Role) : String :=
  violationMessage p s.codec r (s.format r)

/-- One message under several fields. -/
theorem messagesFor_foldl_add (message : String) (f : Field) {fs : List Field} (h : fs.Nodup) :
    ∀ o : Outcome, (fs.foldl (fun o g => o.add g.name message) o).messagesFor f.name
      = o.messagesFor f.name ++ if f ∈ fs then [message] else [] := by
  induction fs with
  | nil => intro o; simp
  | cons g rest ih =>
    obtain ⟨hg, hrest⟩ := List.nodup_cons.mp h
    intro o
    rw [List.foldl_cons, ih hrest, messagesFor_add]
    by_cases hfg : f = g
    · subst hfg
      simp [hg]
    · have hgf : g ≠ f := fun h => hfg h.symm
      simp [hfg, hgf]

theorem messagesFor_addRole (p : Policy) (s : Snapshot) (o : Outcome) (r : Role) (f : Field) :
    (o.addRole p s r).messagesFor f.name
      = o.messagesFor f.name ++ if f ∈ r.reportedFields then [roleMessage p s r] else [] :=
  messagesFor_foldl_add _ f r.nodup_reportedFields o

/-- The messages of a field are those of the failing roles that are reported under it. -/
theorem messagesFor_evaluate (p : Policy) (s : Snapshot) (f : Field) :
    (evaluate p s).messagesFor f.name
      = ((failingRoles p s).filter (f ∈ ·.reportedFields)).map (roleMessage p s) := by
  -- the loop may start at any outcome: what was there stays in front
  have hfold : ∀ (rs : List Role) (o : Outcome),
      (rs.foldl (Outcome.addRole p s) o).messagesFor f.name
        = o.messagesFor f.name ++ (rs.filter (f ∈ ·.reportedFields)).map (roleMessage p s) := by
    intro rs
    induction rs with
    | nil => intro o; simp
    | cons r rest ih =>
      intro o
      rw [List.foldl_cons, ih, messagesFor_addRole, List.append_assoc]
      by_cases hf : f ∈ r.reportedFields
      · simp [hf]
      · simp [hf]
  rw [evaluate, hfold, messagesFor_empty, List.nil_append]

/-- Under the compression stand the messages of all failing roles. -/
theorem messagesFor_evaluate_compression (p : Policy) (s : Snapshot) :
    (evaluate p s).messagesFor Field.compression.name
      = (failingRoles p s).map (roleMessage p s) := by
  have hall : ∀ r ∈ failingRoles p s, decide (Field.compression ∈ r.reportedFields) = true :=
    fun r _ => decide_eq_true r.compression_mem_reportedFields
  rw [messagesFor_evaluate, List.filter_eq_self.mpr hall]

/-- What holds of the outcome without messages, and still after a message about a field is added,
holds of the violations of a snapshot. -/
theorem evaluate_induction {motive : Outcome → Prop} (p : Policy) (s : Snapshot)
    (hempty : motive .empty)
    (hadd : ∀ o (f : Field) message, motive o → motive (o.add f.name message)) :
    motive (evaluate p s) := by
  -- both loops only ever add, so the motive is carried over the fields of one role, then over the roles
  have hrole : ∀ (r : Role) (fs : List Field) (o : Outcome), motive o →
      motive (fs.foldl (fun o f => o.add f.name (roleMessage p s r)) o) := by
    intro r fs
    induction fs with
    | nil => exact fun o h => h
    | cons f rest ih => exact fun o h => ih _ (hadd o f _ h)
  have hroles : ∀ (rs : List Role) (o : Outcome), motive o →
      motive (rs.foldl (Outcome.addRole p s) o) := by
    intro rs
    induction rs with
    | nil => exact fun o h => h
    | cons r rest ih => exact fun o h => ih _ (hrole r _ o h)
  exact hroles _ _ hempty

theorem isAboutFields_evaluate (p : Policy) (s : Snapshot) : (evaluate p s).IsAboutFields :=
  evaluate_induction p s isAboutFields_empty fun _ f message h => h.add f message

/-- A field that is listed has messages. -/
theorem hasNoEmptyField_evaluate (p : Policy) (s : Snapshot) : (evaluate p s).HasNoEmptyField :=
  evaluate_induction p s hasNoEmptyField_empty fun _ f message h => h.add f.name message

/-! ## No violations -/

/-- Nothing is reported exactly if no role fails. -/
theorem isValid_evaluate_iff (p : Policy) (s : Snapshot) :
    (evaluate p s).isValid = true ↔ failingRoles p s = [] := by
  constructor
  · intro h
    have hnone := (isValid_iff _).mp h Field.compression.name
    rw [messagesFor_evaluate_compression, List.map_eq_nil_iff] at hnone
    exact hnone
  · intro h
    rw [evaluate, h]
    rfl

/-- No role fails exactly if nothing is compressed, or every persisted role has a safe format. -/
theorem failingRoles_eq_nil_iff (p : Policy) (s : Snapshot) :
    failingRoles p s = []
      ↔ s.codec = .none ∨ ∀ r, s.persists r = true → p.isSafe (s.format r) = true := by
  unfold failingRoles
  cases hcodec : s.codec with
  | none => simp
  | gzip =>
    simp only [List.filter_eq_nil_iff, Snapshot.fails, Bool.and_eq_true, Bool.not_eq_true',
      not_and, Bool.not_eq_false, reduceCtorEq, false_or]
    constructor
    · intro h r
      exact h r (by cases r <;> decide)
    · intro h r _
      exact h r

/-! ## How many messages a field may have -/

theorem failingRoles_sublist (p : Policy) (s : Snapshot) :
    (failingRoles p s).Sublist Role.all := by
  unfold failingRoles
  cases s.codec with
  | none => exact List.nil_sublist _
  | gzip => exact List.filter_sublist

/-- Under every field but the compression, at most one role is reported. -/
theorem length_messagesFor_evaluate_le (p : Policy) (s : Snapshot) {f : Field}
    (hf : f ≠ .compression) : ((evaluate p s).messagesFor f.name).length ≤ 1 := by
  rw [messagesFor_evaluate, List.length_map]
  have hle := ((failingRoles_sublist p s).filter (f ∈ ·.reportedFields)).length_le
  refine Nat.le_trans hle ?_
  -- among all three roles, only one has the field
  cases f <;> first | decide | exact absurd rfl hf

/-- The bucket is none of the rules' concern. -/
theorem messagesFor_evaluate_bucket (p : Policy) (s : Snapshot) :
    (evaluate p s).messagesFor Field.bucket.name = [] := by
  have hnone : ∀ r ∈ failingRoles p s, ¬ decide (Field.bucket ∈ r.reportedFields) = true := by
    intro r _
    cases r <;> decide
  rw [messagesFor_evaluate, List.filter_eq_nil_iff.mpr hnone, List.map_nil]

end SinkAudit
