import SinkAudit.Proofs.CommandLine.Verdict

/-!
# Runs that print JSON

A program that calls the validation reads its exit code, and then standard output. Whatever the
environment, the files and the storage service are like, the two tell the same: one document if
there is a verdict, and nothing but an error if there is none.

Both directions matter. A program that sees the code zero or one may parse what it read without looking
further, and one that sees another code knows that it read nothing. The document is described entry by
entry, in order, and the code zero is traced back to what it vouches for: the formats of the roles that are
persisted, and the answer of a store that was asked.

- `runValidate_json_of_ok`, `runValidate_of_error`: the run after an outcome, and after a failure.
- `audit_of_valid`: what a valid verdict vouches for.
- `run_json`: the whole run.
-/

namespace SinkAudit.CommandLine

variable {c : ValidateCommand} {w : Surroundings} {s : Snapshot} {o : Outcome} {f : Failure}

/-- An outcome is printed, and the exit code says whether it is valid. -/
theorem runValidate_json_of_ok (hjson : c.output = .json) (h : verdict c w = .ok (s, o)) :
    (runValidate c w).exitCode = (if o.isValid then 0 else 1)
      ∧ (runValidate c w).stdout = outcomeJson o s := by
  obtain ⟨log, calls, hrun⟩ := runValidate_eq c w
  have hprinted : printOutcome w.here.stdout c s o = ⟨outcomeJson o s, none⟩ := by
    rw [printOutcome, hjson]
  rw [hrun, h, ended, hprinted]
  dsimp only
  split
  · exact ⟨rfl, rfl⟩
  · exact ⟨rfl, rfl⟩

/-- Is an error named at the end of what a run wrote? It is the line of the failure as the console shows
it; on a wide one the line begins with the word for an error. -/
def NamesError (stderr : String) (f : Failure) (console : Terminal.Console) : Prop :=
  ∃ log, stderr = log ++ (failureText f console).text
    ∧ (console = .wide → ∃ rest, stderr = log ++ ("Error: " ++ rest))

/-- After a failure that is not because of violations nothing is printed but an error. -/
theorem runValidate_of_error (h : verdict c w = .error f) (hkind : f.kind ≠ .violations) :
    (runValidate c w).exitCode ∈ [2, 3, 4] ∧ (runValidate c w).stdout = ""
      ∧ NamesError (runValidate c w).stderr f w.here.stderr := by
  obtain ⟨log, calls, hrun⟩ := runValidate_eq c w
  rw [hrun, h, ended]
  refine ⟨exitCode_mem_of_kind_ne hkind, rfl, log, ?_, fun hwide => ?_⟩
  · show log ++ (if f.kind = .violations then "" else (failureText f w.here.stderr).text) = _
    rw [if_neg hkind]
  · obtain ⟨rest, hrest⟩ := exists_failureText_eq f
    refine ⟨rest, ?_⟩
    show log ++ (if f.kind = .violations then "" else (failureText f w.here.stderr).text) = _
    rw [if_neg hkind, hwide, hrest]

/-- A valid outcome vouches for the formats of all persisted roles, and for the bucket if it was
checked. -/
theorem audit_of_valid (h : verdict c w = .ok (s, o)) (hvalid : o.isValid = true) :
    ∃ audit, auditOf c w = .ok audit
      ∧ (s.codec = .none ∨ ∀ r, s.persists r = true → audit.policy.isSafe (s.format r) = true)
      ∧ (c.skipBucketCheck = true ∨ ∃ store, audit.store = some store
          ∧ (store.ask s.bucket.text).1 = .ok true) := by
  obtain ⟨audit, haudit, -, hresult⟩ := verdict_eq_ok_iff.mp h
  obtain ⟨hroles, hbucket⟩ := Validator.of_isValid hresult hvalid
  refine ⟨audit, haudit, (failingRoles_eq_nil_iff _ _).mp hroles, ?_⟩
  obtain ⟨hoptions, -⟩ := of_auditOf_eq_ok haudit
  refine hbucket.imp (fun hcheck => ?_) id
  rw [hoptions] at hcheck
  simpa [auditOptions] using hcheck

/-- A validation that prints JSON ends with the exit code zero or one exactly if it comes to an
outcome. Then standard output is one document, which says whether the exit code is zero, what the
configuration in the file is, and the messages of every field in report order. Otherwise the exit
code is two, three or four, standard output is empty and an error is named. The exit code zero
says that the formats of all persisted roles are safe if objects are compressed, and that the
bucket exists unless it was not to be checked. -/
theorem run_json {args : List String} (hparse : Command.parse args = .ok (.validate c))
    (hjson : c.output = .json) (hreply : ∀ f, w.service.reply ≠ .broken f) :
    ((run args w).exitCode ∈ [0, 1] ↔ ∃ s o, verdict c w = .ok (s, o))
      ∧ (∀ s o, verdict c w = .ok (s, o) →
          loadSnapshot w.folder c.path w.here.setOrder = .ok s
          ∧ Json.parse (run args w).stdout.toList = .ok (.mapping [
              ("valid", .scalar (.bool ((run args w).exitCode == 0))),
              ("config", .mapping s.toProperties.toList),
              ("errors", .mapping (Field.all.map fun f =>
                ((f.name : Scalar), .list ((o.messagesFor f.name).map .ofString))))]))
      ∧ (∀ f, verdict c w = .error f →
          (run args w).exitCode ∈ [2, 3, 4] ∧ (run args w).stdout = ""
          ∧ NamesError (run args w).stderr f w.here.stderr)
      ∧ ((run args w).exitCode = 0 → ∃ audit s, auditOf c w = .ok audit
          ∧ loadSnapshot w.folder c.path w.here.setOrder = .ok s
          ∧ (s.codec = .none ∨ ∀ r, s.persists r = true → audit.policy.isSafe (s.format r) = true)
          ∧ (c.skipBucketCheck = true ∨ ∃ store, audit.store = some store
              ∧ (store.ask s.bucket.text).1 = .ok true)) := by
  have hrun : run args w = runValidate c w := by rw [run, hparse]
  rw [hrun]
  -- a failure has none of the exit codes of an outcome, so that each half rules the other out
  cases hverdict : verdict c w with
  | error f =>
    obtain ⟨hcode, hout, herr⟩ := runValidate_of_error hverdict (kind_verdict_ne hreply hverdict)
    have hnot : (runValidate c w).exitCode ∉ [0, 1] := by
      intro h
      simp only [List.mem_cons, List.not_mem_nil, or_false] at h hcode
      omega
    refine ⟨iff_of_false hnot ?_, ?_, ?_, ?_⟩
    · rintro ⟨s, o, h⟩
      cases h
    · intro s o h
      cases h
    · intro f' hf'
      cases hf'
      exact ⟨hcode, hout, herr⟩
    · intro hzero
      exact absurd (hzero ▸ List.mem_cons_self) hnot
  | ok found =>
    obtain ⟨s, o⟩ := found
    obtain ⟨hcode, hout⟩ := runValidate_json_of_ok hjson hverdict
    obtain ⟨-, -, hload, -⟩ := verdict_eq_ok_iff.mp hverdict
    have hvalid : ((runValidate c w).exitCode == 0) = o.isValid := by
      rw [hcode]
      cases o.isValid <;> rfl
    refine ⟨iff_of_true ?_ ⟨s, o, rfl⟩, ?_, ?_, ?_⟩
    · rw [hcode]
      cases o.isValid <;> decide
    · intro s' o' h
      cases h
      refine ⟨hload, ?_⟩
      rw [hout, parse_outcomeJson (isAboutFields_of_verdict hverdict).1, hvalid]
      rfl
    · intro f h
      cases h
    · intro hzero
      rw [hzero] at hvalid
      obtain ⟨audit, haudit, hroles, hbucket⟩ := audit_of_valid hverdict hvalid.symm
      exact ⟨audit, s, haudit, hload, hroles, hbucket⟩

/-- A sink that compresses, whose format is safe and whose bucket the service has. -/
def safeSink : Surroundings :=
  withFile "t.properties" "bucket-name=b\ndata-format-class=json\ncompression-type=gzip"

/-- The exit code zero of a run on such a sink vouches for the format and for the bucket. -/
theorem run_json_safeSink :
    (run ["validate", "t.properties", "--output", "json"] safeSink).exitCode = 0
      ∧ ∃ audit s store, auditOf { path := "t.properties", output := .json } safeSink = .ok audit
        ∧ loadSnapshot safeSink.folder "t.properties" = .ok s
        ∧ (s.codec = .none ∨ ∀ r, s.persists r = true → audit.policy.isSafe (s.format r) = true)
        ∧ audit.store = some store ∧ (store.ask s.bucket.text).1 = .ok true := by
  have hparse : Command.parse ["validate", "t.properties", "--output", "json"]
      = .ok (.validate { path := "t.properties", output := .json }) := by decide +kernel
  have hzero : (run ["validate", "t.properties", "--output", "json"] safeSink).exitCode = 0 := by
    decide +kernel
  have hreply : ∀ f, safeSink.service.reply ≠ .broken f := by
    intro f h
    cases h
  obtain ⟨-, -, -, hvouched⟩ := run_json hparse rfl hreply
  obtain ⟨audit, s, haudit, hload, hroles, hskip | ⟨store, hstore, hanswer⟩⟩ := hvouched hzero
  · cases hskip
  · exact ⟨hzero, audit, s, store, haudit, hload, hroles, hstore, hanswer⟩

end SinkAudit.CommandLine
