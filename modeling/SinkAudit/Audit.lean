import SinkAudit.Settings.Environment
import SinkAudit.Storage.Adapter
import SinkAudit.Validator

/-!
# Audits

An audit validates configuration files under chosen options, settings and a store (`Operations`). It is
what the command line puts together for one run, and what another program would use for many: the store
stays with the audit, so that its client is made once.

Two choices are made here and nowhere else. The formats of the options replace those of the settings as a
whole, but only if there are any; and a store is made from the settings only if buckets are checked and the
caller brought none. A store that a caller brings is never replaced.

- `AuditOptions`: whether buckets are checked, what becomes of storage failures, and the formats to use
  instead of those in the settings (`OpsConfig`).
- `Store.ofSettings`: the store that settings describe (`bucket_store_for`).
- `Audit.create`: an audit; a store is made from the settings if buckets are checked and none is given.
- `Audit.policy`, `Audit.validator`: the policy in force, and the validator under it.
- `Audit.validate`, `Audit.validateFile`: the outcome for a snapshot, and for that in a file.
-/

namespace SinkAudit

/-- How an audit is done (`OpsConfig`). The defaults are those of a run without options. -/
structure AuditOptions where
  checkBucket : Bool := true
  reportAccessErrors : Bool := false
  /-- The safe formats, as they are given: blanks around them count. None at all stands for those in the
  settings. -/
  safeFormats : List String := []

/-- The store of settings (`bucket_store_for`), and what setting it up writes to the log. Its client is
made when it is first asked, and `refusals` says what becomes of the first attempts at that. -/
def Store.ofSettings (s : Settings) (service : ServiceAccess) (refusals : List ClientFault := []) :
    Except Failure (Logged Store) :=
  match Adapter.ofSettings s with
  | .error e => .error (.setup e)
  | .ok adapter => .ok ⟨.service { adapter, service, refusals }, adapter.setupLog⟩

/-- An audit (`Operations`). Whether there is a store was settled when it was created, and does not change;
what the store knows may. -/
structure Audit where
  options : AuditOptions
  settings : Settings
  store : Option Store

namespace Audit

/-- An audit under given settings, with what setting it up writes to the log. It fails only if it has to make
a store itself and the settings do not describe one. -/
def create (options : AuditOptions) (settings : Settings) (store : Option Store)
    (service : ServiceAccess) (refusals : List ClientFault := []) :
    Except Failure (Logged Audit) :=
  match store with
  | some store => .ok ⟨⟨options, settings, some store⟩, []⟩
  | none =>
    if options.checkBucket then
      match Store.ofSettings settings service refusals with
      | .error f => .error f
      | .ok made => .ok ⟨⟨options, settings, some made.result⟩, made.log⟩
    else .ok ⟨⟨options, settings, none⟩, []⟩

/-- The policy in force (`Operations.policy`): the formats of the options, or else those of the settings. The
options are taken as a set, as they are; only lists in the environment are tidied up. -/
def policy (a : Audit) : Policy := (Policy.ofSet? a.options.safeFormats).getD a.settings.safe

/-- The validator of the audit, which is made anew for every validation. It keeps nothing between them, so
that it makes no difference. -/
def validator (a : Audit) : Validator where
  policy := a.policy
  mode := if a.options.reportAccessErrors then .report else .raise

/-- The outcome for a snapshot (`Operations.validate`), and the audit after it, in which only the store can
differ. -/
def validate (a : Audit) (s : Snapshot) : Logged (Except Failure Outcome) × Audit :=
  let (judged, store) := a.validator.validate a.store s a.options.checkBucket
  (judged, { a with store })

/-- The snapshot in a file and its outcome, and the audit after it, as `validate_file` gives them. A file
that cannot be loaded ends the validation before any store is asked. -/
def validateFile (a : Audit) (folder : Folder) (path : String) (order : SetOrder := .canonical) :
    Logged (Except Failure (Snapshot × Outcome)) × Audit :=
  match loadSnapshot folder path order with
  | .error e => (⟨.error (.ofFile e), []⟩, a)
  | .ok s =>
    let (judged, a) := a.validate s
    (⟨judged.result.map (s, ·), judged.log⟩, a)

end Audit

end SinkAudit
