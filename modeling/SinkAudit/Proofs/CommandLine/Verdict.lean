import SinkAudit.CommandLine.Run
import SinkAudit.Proofs.Report
import SinkAudit.Proofs.Storage.Adapter
import SinkAudit.Proofs.Validator

/-!
# What a validation comes to

A run of the validation first comes to a verdict, which is an outcome or a failure, and then
prints it. The verdict knows nothing of how it is going to be printed.

Most results about runs are about verdicts in truth. With `runValidate_eq` and `exitCode_runValidate` they
are proved of the function `verdict`, and then carried over to what is printed and to the exit code.

- `auditOf`, `verdict`: the audit that a validation does, and what it comes to.
- `verdict_eq_ok_iff`: there is an outcome exactly if the audit is set up, the file is loaded and
  the validation returns.
- `runValidate_of_store`, `runValidate_eq`, `exitCode_runValidate`: the run and its exit code, given the
  store and given the verdict.
- `kind_verdict_ne`: a failure is never mistaken for violations.
- `withFile`: surroundings to try a run in.
-/

namespace SinkAudit.CommandLine

variable {c : ValidateCommand} {w : Surroundings} {s : Snapshot} {o : Outcome} {f : Failure}

/-- The audit that a validation does, unless it cannot be set up. -/
def auditOf (c : ValidateCommand) (w : Surroundings) : Except Failure Audit :=
  match Settings.ofEnvironment w.environment with
  | .error e => .error (.settings e)
  | .ok settings =>
    (chooseStore c w settings).2.map fun store => ⟨auditOptions c, settings, store.result⟩

/-- What a validation comes to: the snapshot in the file with its outcome, or a failure. -/
def verdict (c : ValidateCommand) (w : Surroundings) : Except Failure (Snapshot × Outcome) :=
  match auditOf c w with
  | .error f => .error f
  | .ok audit => (audit.validateFile w.folder c.path w.here.setOrder).1.result

/-- An audit is set up with the settings of the environment, and with no store, the one in memory
or the service. It cannot be set up only because of the settings, or because they make no
store. -/
theorem auditOf_cases (c : ValidateCommand) (w : Surroundings) :
    (∃ e, auditOf c w = .error (.settings e)) ∨ (∃ e, auditOf c w = .error (.setup e))
      ∨ ∃ audit, auditOf c w = .ok audit ∧ audit.options = auditOptions c
        ∧ Settings.ofEnvironment w.environment = .ok audit.settings
        ∧ (audit.store = none ∨ audit.store = some (.memory (memoryStore w.environment))
          ∨ ∃ adapter, audit.store
              = some (.service { adapter, service := w.service, refusals := w.refusals })) := by
  unfold auditOf
  -- one case for each way in which a store is chosen: none, the one in memory, that of a service
  cases Settings.ofEnvironment w.environment with
  | error e => exact .inl ⟨e, rfl⟩
  | ok settings =>
    refine .inr ?_
    dsimp only
    unfold chooseStore
    by_cases hskip : c.skipBucketCheck = true
    · rw [if_pos hskip]
      exact .inr ⟨_, rfl, rfl, rfl, .inl rfl⟩
    · rw [if_neg hskip]
      dsimp only
      split
      · exact .inr ⟨_, rfl, rfl, rfl, .inr (.inl rfl)⟩
      · unfold Store.ofSettings
        cases Adapter.ofSettings settings with
        | error e => exact .inl ⟨e, rfl⟩
        | ok adapter => exact .inr ⟨_, rfl, rfl, rfl, .inr (.inr ⟨adapter, rfl⟩)⟩

/-- An audit that is set up has the options of the command, the settings of the environment, and
no store, the one in memory or the service. -/
theorem of_auditOf_eq_ok {audit : Audit} (h : auditOf c w = .ok audit) :
    audit.options = auditOptions c
      ∧ Settings.ofEnvironment w.environment = .ok audit.settings
      ∧ (audit.store = none ∨ audit.store = some (.memory (memoryStore w.environment))
        ∨ ∃ adapter, audit.store
            = some (.service { adapter, service := w.service, refusals := w.refusals })) := by
  rcases auditOf_cases c w with ⟨e, herror⟩ | ⟨e, herror⟩ | ⟨audit', hok, hparts⟩
  · rw [h] at herror
    cases herror
  · rw [h] at herror
    cases herror
  · rw [h] at hok
    cases hok
    exact hparts

/-! ## Verdicts -/

theorem validateFile_eq_ok_iff {a : Audit} {folder : Folder} {path : String} {order : SetOrder} :
    (a.validateFile folder path order).1.result = .ok (s, o)
      ↔ loadSnapshot folder path order = .ok s ∧ (a.validate s).1.result = .ok o := by
  unfold Audit.validateFile
  cases loadSnapshot folder path order with
  | error e => simp
  | ok s' =>
    show (a.validate s').1.result.map (s', ·) = .ok (s, o) ↔ _
    cases hresult : (a.validate s').1.result with
    | error f =>
      constructor
      · intro h
        cases h
      · rintro ⟨hs, h⟩
        cases hs
        rw [hresult] at h
        cases h
    | ok o' =>
      constructor
      · intro h
        cases h
        exact ⟨rfl, hresult⟩
      · rintro ⟨hs, h⟩
        cases hs
        rw [hresult] at h
        cases h
        rfl

/-- There is an outcome exactly if the audit is set up, the file is loaded and the validation
returns. -/
theorem verdict_eq_ok_iff :
    verdict c w = .ok (s, o) ↔ ∃ audit, auditOf c w = .ok audit
      ∧ loadSnapshot w.folder c.path w.here.setOrder = .ok s
      ∧ (audit.validate s).1.result = .ok o := by
  unfold verdict
  cases auditOf c w with
  | error f => simp
  | ok audit =>
    simp only [validateFile_eq_ok_iff, Except.ok.injEq, exists_eq_left']

/-- The outcome of a verdict is about known fields, of which only the compression may have several
messages. -/
theorem isAboutFields_of_verdict (h : verdict c w = .ok (s, o)) :
    o.IsAboutFields ∧ ∀ f : Field, f ≠ .compression → (o.messagesFor f.name).length ≤ 1 := by
  obtain ⟨audit, -, -, hresult⟩ := verdict_eq_ok_iff.mp h
  exact ⟨(Validator.exists_messages hresult).1, fun f => Validator.length_messagesFor_le hresult⟩

/-! ## Runs -/

/-- A run ends with the calls that were made before. -/
theorem calls_ended (host : Host) (c : ValidateCommand) (log : String) (calls : List ServiceCall)
    (found : Except Failure (Snapshot × Outcome)) : (ended host c log calls found).calls = calls := by
  cases found with
  | error f => rfl
  | ok found =>
    obtain ⟨s, o⟩ := found
    unfold ended
    dsimp only
    cases (printOutcome host.stdout c s o).error with
    | some e => rfl
    | none =>
      dsimp only
      split <;> rfl

/-- Once its store is chosen, a run ends by what its audit makes of the file. -/
theorem runValidate_of_store {settings : Settings} {warning : String} {store : Logged (Option Store)}
    (hsettings : Settings.ofEnvironment w.environment = .ok settings)
    (hchosen : chooseStore c w settings = (warning, .ok store)) :
    let found := Audit.validateFile ⟨auditOptions c, settings, store.result⟩ w.folder c.path
      w.here.setOrder
    let calls := (found.2.store.map Store.serviceCalls).getD []
    runValidate c w = ended w.here c
      (warning ++ fullLogText c.verbose (store.log ++ found.1.log) (writtenBy w c.verbose calls))
      calls found.1.result := by
  unfold runValidate
  rw [hsettings]
  dsimp only
  rw [hchosen]

/-- A run ends by its verdict, and standard output holds nothing else. -/
theorem runValidate_eq (c : ValidateCommand) (w : Surroundings) :
    ∃ log calls, runValidate c w = ended w.here c log calls (verdict c w) := by
  unfold verdict auditOf
  -- a run stops at the settings or at the store, or comes to the file; each way ends by its verdict
  cases hsettings : Settings.ofEnvironment w.environment with
  | error e =>
    unfold runValidate
    rw [hsettings]
    exact ⟨_, _, rfl⟩
  | ok settings =>
    cases hchosen : chooseStore c w settings with
    | mk warning chosen =>
      cases chosen with
      | error f =>
        unfold runValidate
        rw [hsettings]
        dsimp only
        rw [hchosen]
        exact ⟨_, _, rfl⟩
      | ok store =>
        dsimp only
        rw [hchosen]
        exact ⟨_, _, runValidate_of_store hsettings hchosen⟩

/-- Whether an outcome is printed does not depend on the console. -/
theorem error_printOutcome (console : Terminal.Console) (c : ValidateCommand) (s : Snapshot)
    (o : Outcome) : (printOutcome console c s o).error = (printOutcome .wide c s o).error := by
  unfold printOutcome
  cases c.output with
  | json => rfl
  | text => exact Printed.error_blocks console _

/-- The exit code of a run, given how the verdict can be printed. -/
theorem exitCode_runValidate (c : ValidateCommand) (w : Surroundings) :
    (runValidate c w).exitCode = match verdict c w with
      | .error f => f.exitCode
      | .ok (s, o) => match (printOutcome .wide c s o).error with
        | some e => (Failure.markup e).exitCode
        | none => if o.isValid then 0 else 1 := by
  obtain ⟨log, calls, hrun⟩ := runValidate_eq c w
  rw [hrun]
  unfold ended
  cases verdict c w with
  | error f => rfl
  | ok found =>
    obtain ⟨s, o⟩ := found
    dsimp only
    -- whether an outcome can be printed does not depend on the console, only how it looks
    rw [error_printOutcome]
    cases (printOutcome .wide c s o).error with
    | some e => rfl
    | none =>
      dsimp only
      split <;> rfl

/-- Surroundings with one file, of characters that take one byte each, and a service that has every
bucket. -/
def withFile (path content : String) : Surroundings where
  environment _ := none
  folder := ⟨[(path, .file (content.toList.map fun c => .ofNat c.toNat))]⟩
  service := ⟨fun _ => true, .answered (.scalar .null)⟩

/-! ## Failures -/

/-- Only violations have the exit code one, and no failure has the exit code zero. -/
theorem exitCode_mem_of_kind_ne {k : FailureKind} (h : k ≠ .violations) :
    k.exitCode ∈ [2, 3, 4] := by
  cases k with
  | violations => exact absurd rfl h
  | named name => exact (by decide : 3 ∈ [2, 3, 4])
  | _ => decide

theorem kind_storage_ne (e : StorageError) : (Failure.storage e).kind ≠ .violations := by
  show e.fault.kind ≠ .violations
  cases e.fault <;> exact nofun

/-- A file that cannot be loaded is no configuration with violations. -/
theorem kind_ofFile_ne (e : FileError) : (Failure.ofFile e).kind ≠ .violations := by
  cases e with
  | load e =>
    show e.kind ≠ .violations
    cases e with
    | yaml path e =>
      show e.kind ≠ .violations
      -- only the kind of a code point that is none depends on more than the constructor
      cases e with
      | codePoint n =>
        show (if n < Nat.pow 2 31 then FailureKind.invalidValue else .overflow) ≠ .violations
        split <;> decide
      | _ => exact nofun
    | _ => exact nofun
  | snapshot e =>
    cases e with
    | _ => intro h; cases h

/-- A service that works, or fails in a way of its own, is never the cause of violations. -/
theorem kind_answer_ne {b : Backend} {name : String} {reply : Reply}
    (hreply : ∀ f, reply ≠ .broken f) (h : b.answer name reply = .error f) : f.kind ≠ .violations := by
  cases reply with
  | broken f' => exact absurd rfl (hreply f')
  | answered v => cases b <;> cases h
  | failed e =>
    cases b with
    | s3 =>
      change answerOfS3 name (.failed e) = .error f at h
      unfold answerOfS3 at h
      cases e with
      | refused r =>
        dsimp only at h
        -- no bucket, bad credentials or another reason: only the first is an answer
        split at h
        · cases h
        · split at h <;> cases h <;> exact kind_storage_ne _
      | _ =>
        cases h
        exact nofun
    | azure =>
      change answerOfAzure name (.failed e) = .error f at h
      unfold answerOfAzure at h
      cases e with
      | response m status =>
        dsimp only at h
        split at h <;> cases h <;> exact kind_storage_ne _
      | _ =>
        cases h
        exact nofun

/-- An adapter answers what its service does, unless a package is missing or makes no client. -/
theorem fst_ask_cases (a : Adapter) (installed : Package → Bool) (reply : Reply) (name : String)
    (refusal : Option ClientFault) :
    (a.ask installed reply name refusal).1 = a.backend.answer name reply
      ∨ (∃ fault, refusal = some fault
        ∧ (a.ask installed reply name refusal).1 = .error fault.failure)
      ∨ (a.ask installed reply name refusal).1 = .error (.missingPackage a.backend) := by
  by_cases hinstalled : a.needed.all installed = true
  · cases hclient : a.hasClient with
    | true =>
      rw [Adapter.ask_of_installed hinstalled _ _ (.inl hclient)]
      exact .inl rfl
    | false =>
      cases refusal with
      | none =>
        rw [Adapter.ask_of_installed hinstalled _ _ (.inr rfl)]
        exact .inl rfl
      | some fault =>
        rw [Adapter.ask_of_refused hinstalled hclient]
        exact .inr (.inl ⟨fault, rfl, rfl⟩)
  · rw [Adapter.ask_of_missing hinstalled]
    exact .inr (.inr rfl)

/-- That a package makes no client is none because of violations. -/
theorem kind_clientFault_ne (fault : ClientFault) : fault.failure.kind ≠ .violations := by
  cases fault <;> exact nofun

/-- A store that a run sets up is never the cause of violations. -/
theorem kind_ask_ne {audit : Audit} (haudit : auditOf c w = .ok audit)
    (hreply : ∀ f, w.service.reply ≠ .broken f) {store : Store} (hstore : audit.store = some store)
    {name : String} (h : (store.ask name).1 = .error f) : f.kind ≠ .violations := by
  -- there is no store, or the one in memory, which never fails here, or that of the service
  obtain ⟨-, -, hnone | hmemory | ⟨adapter, hservice⟩⟩ := of_auditOf_eq_ok haudit
  · rw [hstore] at hnone
    cases hnone
  · rw [hstore] at hmemory
    cases hmemory
    cases h
  · rw [hstore] at hservice
    cases hservice
    change (adapter.ask w.service.installed w.service.reply name w.refusals.head?).1 = .error f at h
    rcases fst_ask_cases adapter w.service.installed w.service.reply name w.refusals.head? with
      hanswer | ⟨fault, -, hfault⟩ | hmissing
    · exact kind_answer_ne hreply (hanswer.symm.trans h)
    · rw [hfault] at h
      cases h
      exact kind_clientFault_ne fault
    · rw [hmissing] at h
      cases h
      exact nofun

/-- A verdict that is a failure is none because of violations. -/
theorem kind_verdict_ne (hreply : ∀ f, w.service.reply ≠ .broken f) (h : verdict c w = .error f) :
    f.kind ≠ .violations := by
  unfold verdict at h
  -- a verdict fails at the audit, at the file or at the store, and each is looked at in its place
  cases haudit : auditOf c w with
  | error f' =>
    rw [haudit] at h
    cases h
    have hcases := auditOf_cases c w
    simp only [haudit, reduceCtorEq, false_and, exists_false, or_false, Except.error.injEq] at hcases
    obtain ⟨e, rfl⟩ | ⟨e, rfl⟩ := hcases
    · cases e with
      | _ => exact nofun
    · exact nofun
  | ok audit =>
    rw [haudit] at h
    dsimp only at h
    unfold Audit.validateFile at h
    cases hload : loadSnapshot w.folder c.path w.here.setOrder with
    | error e =>
      rw [hload] at h
      cases h
      exact kind_ofFile_ne e
    | ok s =>
      rw [hload] at h
      change (audit.validate s).1.result.map (s, ·) = .error f at h
      cases hresult : (audit.validate s).1.result with
      | ok o =>
        rw [hresult] at h
        cases h
      | error f' =>
        rw [hresult] at h
        cases h
        rcases Validator.eq_of_validate_eq_error hresult with rfl | ⟨store, hstore, hask⟩
        · exact nofun
        · exact kind_ask_ne haudit hreply hstore hask

end SinkAudit.CommandLine
