import Mathlib.Data.Set.Basic
import SinkAudit.Proofs.Compatibility.Walk

/-!
# What the violations tell of a snapshot

The violations of a snapshot tell which roles are at fault and for which formats, and nothing else.
Under one policy all messages are the same but for the role and the format that they name, so both
can be read off a message, whatever characters the format has.

A message is a template with four places: the codec, the role, its format and the list of safe formats.
The format is a text that the user chose and may hold anything, also the words of the template. That the
message determines it is not a matter of parsing. Role names are a prefix code up to the words that follow
them, and under one policy and codec everything around the format is fixed, so that what is left over
between a fixed beginning and a fixed end is the format.

- `faults`: the roles at fault, each with the format that it is at fault for.
- `Role.name_append_inj`, `violationMessage_inj`: a message is that of one role and one format.
- `reportOf`, `evaluate_eq_reportOf`: the violations are made of the faults alone.
- `faultList_eq_of_same`: the faults are read back from the violations.
- `evaluate_faults`: two snapshots have the same violations exactly if they have the same faults.
-/

namespace SinkAudit

open Outcome

variable {p : Policy} {s t : Snapshot}

/-! ## Faults -/

/-- The roles at fault under a policy, each with the format that it is at fault for. Without
compression there are none. -/
def faults (p : Policy) (s : Snapshot) : Set (Role × String) :=
  {e | s.codec = .gzip ∧ e.1.IsAtFault p s ∧ s.format e.1 = e.2}

/-- The faults in the order in which the roles are visited. -/
def faultList (p : Policy) (s : Snapshot) : List (Role × String) :=
  (failingRoles p s).map fun r => (r, s.format r)

/-- A role fails if something is compressed and the role is at fault. -/
theorem mem_failingRoles {r : Role} :
    r ∈ failingRoles p s ↔ s.codec = .gzip ∧ r.IsAtFault p s := by
  cases hcodec : s.codec with
  | none => simp [failingRoles, hcodec]
  | gzip =>
    rw [failingRoles_gzip hcodec, rolesAtFault, List.mem_filter, decide_eq_true_iff]
    cases r <;> simp

theorem mem_faultList {e : Role × String} : e ∈ faultList p s ↔ e ∈ faults p s := by
  obtain ⟨r, format⟩ := e
  simp only [faultList, List.mem_map, Prod.mk.injEq, mem_failingRoles]
  constructor
  · rintro ⟨r', ⟨hcodec, hfault⟩, rfl, rfl⟩
    exact ⟨hcodec, hfault, rfl⟩
  · rintro ⟨hcodec, hfault, hformat⟩
    exact ⟨r, ⟨hcodec, hfault⟩, rfl, hformat⟩

/-- The failing roles stand in the order of all roles. -/
theorem failingRoles_eq_filter (p : Policy) (s : Snapshot) :
    failingRoles p s = Role.all.filter (· ∈ failingRoles p s) := by
  cases hcodec : s.codec with
  | none => simp [failingRoles, hcodec]
  | gzip =>
    simp only [mem_failingRoles, hcodec, true_and]
    exact failingRoles_gzip hcodec

/-- The faults as a set determine their order. -/
theorem faultList_eq_of_faults_eq (h : faults p s = faults p t) : faultList p s = faultList p t := by
  have hmem : ∀ e, e ∈ faultList p s ↔ e ∈ faultList p t := by
    intro e
    rw [mem_faultList, mem_faultList, h]
  -- a role fails if it stands in some fault
  have hfails : ∀ {u : Snapshot} {r : Role},
      r ∈ failingRoles p u ↔ ∃ format, (r, format) ∈ faultList p u := by
    intro u r
    simp [faultList]
  have hroles : failingRoles p s = failingRoles p t := by
    rw [failingRoles_eq_filter p s, failingRoles_eq_filter p t]
    refine List.filter_congr fun r _ => ?_
    rw [decide_eq_decide, hfails, hfails]
    simp only [hmem]
  rw [faultList, faultList, hroles]
  refine List.map_congr_left fun r hr => ?_
  have hfault : (r, s.format r) ∈ faultList p t := by
    rw [← hmem]
    exact List.mem_map_of_mem (hroles ▸ hr)
  obtain ⟨r', -, heq⟩ := List.mem_map.mp hfault
  obtain ⟨rfl, hformat⟩ := Prod.mk.inj heq
  rw [hformat]

/-! ## Messages -/

/-- The names of the roles begin with different letters. -/
theorem Role.eq_of_head?_name {r r' : Role} (h : r.name.toList.head? = r'.name.toList.head?) :
    r = r' := by
  revert h
  cases r <;> cases r' <;> decide

/-- So a text that begins with the name of a role tells the role. -/
theorem Role.name_append_inj {r r' : Role} {x y : String} (h : r.name ++ x = r'.name ++ y) :
    r = r' ∧ x = y := by
  have hname : ∀ r : Role, r.name.toList ≠ [] := by
    intro r
    cases r <;> decide
  have hhead := congrArg (fun z => z.toList.head?) h
  simp only [String.toList_append] at hhead
  rw [List.head?_append_of_ne_nil _ (hname r), List.head?_append_of_ne_nil _ (hname r')] at hhead
  obtain rfl := Role.eq_of_head?_name hhead
  exact ⟨rfl, (String.append_right_inj _).mp h⟩

/-- A message tells the role and the format that it is about. -/
theorem violationMessage_inj {c : Codec} {r r' : Role} {format format' : String}
    (h : violationMessage p c r format = violationMessage p c r' format') :
    r = r' ∧ format = format' := by
  unfold violationMessage at h
  simp only [String.append_assoc, String.append_right_inj] at h
  obtain ⟨hrole, hrest⟩ := Role.name_append_inj h
  exact ⟨hrole, (String.append_left_inj _).mp ((String.append_right_inj _).mp hrest)⟩

/-- What is said of a fault. -/
def faultMessage (p : Policy) (e : Role × String) : String := violationMessage p .gzip e.1 e.2

theorem faultMessage_injective (p : Policy) : Function.Injective (faultMessage p) := by
  intro a b h
  obtain ⟨hrole, hformat⟩ := violationMessage_inj h
  exact Prod.ext hrole hformat

/-- The messages of the failing roles are those of the faults. -/
theorem map_roleMessage_failingRoles (p : Policy) (s : Snapshot) :
    (failingRoles p s).map (roleMessage p s) = (faultList p s).map (faultMessage p) := by
  rw [faultList, List.map_map]
  refine List.map_congr_left fun r hr => ?_
  rw [roleMessage, (mem_failingRoles.mp hr).1]
  rfl

/-! ## Violations and faults -/

/-- The report of faults: their messages one by one, each under the fields of its role. -/
def reportOf (p : Policy) (es : List (Role × String)) : Outcome :=
  ofPosts (es.flatMap fun e => e.1.reportedNames.map fun f => (f, faultMessage p e))

/-- The violations are the report of the faults. -/
theorem evaluate_eq_reportOf (p : Policy) (s : Snapshot) :
    evaluate p s = reportOf p (faultList p s) := by
  rw [evaluate_eq_ofPosts, reportOf, postsOf, faultList, List.flatMap_map]
  refine congrArg ofPosts (List.flatMap_congr fun r _ => ?_)
  cases r <;> rfl

/-- The faults are read back from the messages under the compression. -/
theorem faultList_eq_of_same (h : (evaluate p s).same (evaluate p t) = true) :
    faultList p s = faultList p t := by
  have hmessages := messagesFor_eq_of_same h Field.compression.name
  rw [messagesFor_evaluate_compression, messagesFor_evaluate_compression,
    map_roleMessage_failingRoles, map_roleMessage_failingRoles] at hmessages
  exact (faultMessage_injective p).list_map hmessages

/-- No two messages of a field are equal. -/
theorem nodup_messagesFor_evaluate (p : Policy) (s : Snapshot) (f : Field) :
    ((evaluate p s).messagesFor f.name).Nodup := by
  have hroles : (failingRoles p s).Nodup := (failingRoles_sublist p s).nodup (by decide)
  rw [messagesFor_evaluate]
  exact (hroles.filter _).map fun r r' h => (violationMessage_inj h).1

/-! ## What is not a fault -/

namespace Snapshot

/-- The snapshot with another format for a role. -/
def withFormat (s : Snapshot) (format : Identifier) : Role → Snapshot
  | .data => { s with dataFormat := format }
  | .keys => { s with keysFormat := format }
  | .headers => { s with headersFormat := format }

@[simp] theorem codec_withFormat (s : Snapshot) (format : Identifier) (r : Role) :
    (s.withFormat format r).codec = s.codec := by
  cases r <;> rfl

@[simp] theorem persists_withFormat (s : Snapshot) (format : Identifier) (r r' : Role) :
    (s.withFormat format r).persists r' = s.persists r' := by
  cases r <;> cases r' <;> rfl

theorem format_withFormat (s : Snapshot) (format : Identifier) (r r' : Role) :
    (s.withFormat format r).format r' = if r' = r then format.text else s.format r' := by
  cases r <;> cases r' <;> rfl

end Snapshot

theorem mem_faults_iff {r : Role} {format : String} :
    (r, format) ∈ faults p s ↔ s.codec = .gzip ∧ s.fails p r = true ∧ s.format r = format := by
  rw [r.fails_iff]
  exact Iff.rfl

/-- The format of a role that is not persisted makes no fault, and neither does a safe one. -/
theorem faults_withFormat {r : Role} {format : Identifier}
    (h : s.persists r = false ∨ p.isSafe (s.format r) = true ∧ p.isSafe format.text = true) :
    faults p (s.withFormat format r) = faults p s := by
  ext ⟨r', f⟩
  rw [mem_faults_iff, mem_faults_iff, Snapshot.fails, Snapshot.fails, Snapshot.codec_withFormat,
    Snapshot.persists_withFormat, Snapshot.format_withFormat]
  by_cases hr : r' = r
  · subst hr
    rcases h with hskipped | ⟨hold, hnew⟩
    · simp [hskipped]
    · simp [hold, hnew]
  · simp [hr]

/-- The violations tell the faults and nothing else. Two snapshots have the same violations exactly
if the same roles are at fault for the same formats, and then they have them in the same order. So
neither the bucket, nor the format of a role that is not persisted, nor the choice among safe
formats makes a difference. No field has two equal messages. -/
theorem evaluate_faults (p : Policy) (s t : Snapshot) :
    ((evaluate p s).same (evaluate p t) = true ↔ faults p s = faults p t)
    ∧ (faults p s = faults p t → evaluate p s = evaluate p t)
    ∧ (∀ bucket, evaluate p { s with bucket } = evaluate p s)
    ∧ (∀ r format,
        s.persists r = false ∨ p.isSafe (s.format r) = true ∧ p.isSafe format.text = true →
        evaluate p (s.withFormat format r) = evaluate p s)
    ∧ ∀ field, ((evaluate p s).messagesFor field).Nodup := by
  -- all but the converse follows from this: the violations are made of the faults
  have hequal : ∀ {u v : Snapshot}, faults p u = faults p v → evaluate p u = evaluate p v := by
    intro u v h
    rw [evaluate_eq_reportOf, evaluate_eq_reportOf, faultList_eq_of_faults_eq h]
  refine ⟨⟨fun h => ?_, fun h => ?_⟩, hequal, fun bucket => hequal ?_,
    fun r format h => hequal (faults_withFormat h), fun field => ?_⟩
  · ext e
    rw [← mem_faultList, ← mem_faultList, faultList_eq_of_same h]
  · rw [hequal h]
    exact same_self _
  · rfl
  · rcases (isAboutFields_evaluate p s).name_or_none field with ⟨f, rfl⟩ | hnone
    · exact nodup_messagesFor_evaluate p s f
    · rw [hnone]
      exact List.nodup_nil

end SinkAudit
