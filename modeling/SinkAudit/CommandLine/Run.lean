import SinkAudit.Audit
import SinkAudit.CommandLine.Arguments
import SinkAudit.Report

/-!
# Running a command

A run depends on the arguments, the environment, the files and the storage service, and on what the
interpreter and its libraries make of the environment for themselves; on nothing else.

The program reads thirteen variables (`ownVariables`). All others may matter to the interpreter and to the
libraries that print: a seed decides how sets list their members, and `COLUMNS`, `TERM` or `NO_COLOR` how
a console looks. What they make of these is a `Host`, and it is any function of the environment without
the variables of the program. The package of the storage service is on its own again. It may refuse to
make a client, and it has loggers of its own, whose records go to standard error with those of the program
because `--verbose` sets the level of the root logger; it sees the whole environment, and what its client
is made with.

- `Host`, `Surroundings`: all that a run depends on besides its arguments.
- `RunResult`: the exit code, what is printed, and the calls made to the storage service.
- `conclude`: what a failure ends with. Violations were printed already; any other failure is named.
- `runValidate`, `runFormats`, `run`: the commands.
-/

namespace SinkAudit.CommandLine

open Terminal (Console Block)

/-- What the interpreter and its libraries make of the environment for themselves: the order in which
sets list their members, and the consoles of standard output and standard error. -/
structure Host where
  setOrder : SetOrder := .canonical
  stdout : Console := .wide
  stderr : Console := .wide

/-- The variables that the program itself reads. All others are the host's business. -/
def ownVariables : List String :=
  ["SINKCHECK_STORE", "SINKCHECK_FAKE_BUCKETS"] ++ Variable.all.map Variable.name

/-- An environment without the variables of the program: what the interpreter and the libraries may look
at. -/
def othersOf (env : Environment) : Environment := fun name =>
  if name ∈ ownVariables then none else env name

/-- What a run depends on besides its arguments. -/
structure Surroundings where
  environment : Environment
  folder : Folder
  service : ServiceAccess
  /-- Can a store in memory take the place of the service? -/
  hasMemoryStore : Bool := true
  /-- The refusals of the service's package to make a client, before it makes one. -/
  refusals : List ClientFault := []
  /-- What the loggers of the service's package write in the course of calls to it: all their records, or
  warnings only. -/
  serviceLog : Environment → Bool → List ServiceCall → String := fun _ _ _ => ""
  /-- What the interpreter and its libraries make of the environment. -/
  host : Environment → Host := fun _ => {}

/-- The interpreter and its libraries under the environment of a run. -/
def Surroundings.here (w : Surroundings) : Host := w.host (othersOf w.environment)

/-- What a run leaves behind: all that can be seen of it from outside, the calls to the service included. -/
structure RunResult where
  exitCode : Nat
  stdout : String
  stderr : String
  calls : List ServiceCall

/-- The exit code of a failure, and what it prints as an error (`run_and_exit`). -/
def conclude (f : Failure) (console : Console := .wide) : Nat × String :=
  (f.exitCode, if f.kind = .violations then "" else (failureText f console).text)

/-- The run that a failure ends, after something was printed. The line of the failure goes to standard error
(`print_error`). -/
def RunResult.failed (console : Console) (f : Failure) (stdout stderr : String)
    (calls : List ServiceCall) : RunResult :=
  let (exitCode, text) := conclude f console
  ⟨exitCode, stdout, stderr ++ text, calls⟩

/-! ## The log -/

/-- The log as it is shown: everything, or warnings only (`_configure_logging`). -/
def logText (verbose : Bool) (log : List LogEntry) : String :=
  String.join ((log.filter fun e => verbose || e.isWarning).map (·.line ++ "\n"))

/-- Is the entry about what a store answered, or written after that? -/
def followsAnswer (e : LogEntry) : Bool := e.logger = .bucket || e.logger = .validator

/-- The log as it is shown, with what the loggers of the service's package wrote: that stands before all
that is written once the service has answered. -/
def fullLogText (verbose : Bool) (log : List LogEntry) (written : String) : String :=
  logText verbose (log.takeWhile (!followsAnswer ·)) ++ written
    ++ logText verbose (log.dropWhile (!followsAnswer ·))

/-- What the loggers of the service's package write in a run: nothing if it is not called. -/
def writtenBy (w : Surroundings) (verbose : Bool) (calls : List ServiceCall) : String :=
  if calls.isEmpty then "" else w.serviceLog w.environment verbose calls

/-! ## Validations -/

/-- The buckets of the store in memory: the names in a variable (`_create_fake_store`). -/
def memoryStore (env : Environment) : MemoryStore where
  buckets := Policy.cleanNames (splitNames ((env "SINKCHECK_FAKE_BUCKETS").getD ""))

/-- What is said when there is no store in memory. -/
def noMemoryStore : String := "Warning: FakeBucketStore not available, using real store\n"

/-- The store that a validation is to use, by option or else by variable. An empty variable counts as unset,
while an empty option is taken as it is and hides the variable. -/
def storeName (c : ValidateCommand) (env : Environment) : Option String :=
  c.store <|> (env "SINKCHECK_STORE").filter (· != "")

/-- A warning, and the store of a validation with what setting it up writes to the log. Without a bucket
check no store is made, so that nothing about storage is looked at. -/
def chooseStore (c : ValidateCommand) (w : Surroundings) (s : Settings) :
    String × Except Failure (Logged (Option Store)) :=
  if c.skipBucketCheck then ("", .ok ⟨none, []⟩)
  else
    let wanted := storeName c w.environment == some "fake"
    if wanted && w.hasMemoryStore then
      ("", .ok ⟨some (.memory (memoryStore w.environment)), []⟩)
    else (if wanted then noMemoryStore else "",
      (Store.ofSettings s w.service w.refusals).map fun made => ⟨some made.result, made.log⟩)

/-- An outcome as it is printed. -/
def printOutcome (console : Console) (c : ValidateCommand) (s : Snapshot) (o : Outcome) : Printed :=
  match c.output with
  | .json => ⟨outcomeJson o s, none⟩
  | .text => outcomeText o s c.verbose console

/-- How a run ends that comes to a verdict, after what was written to standard error and the calls that
were made. An outcome is printed before its violations end the run, and an error in its markup ends the
run first. -/
def ended (host : Host) (c : ValidateCommand) (log : String) (calls : List ServiceCall) :
    Except Failure (Snapshot × Outcome) → RunResult
  | .error f => .failed host.stderr f "" log calls
  | .ok (s, o) =>
    let printed := printOutcome host.stdout c s o
    match printed.error with
    | some e => .failed host.stderr (.markup e) printed.text log calls
    | none =>
      if o.isValid then ⟨0, printed.text, log, calls⟩
      else .failed host.stderr (.violations o) printed.text log calls

/-- How the audit of a validation is done (`OpsConfig`). -/
def auditOptions (c : ValidateCommand) : AuditOptions where
  checkBucket := !c.skipBucketCheck
  reportAccessErrors := c.reportAccessErrors
  safeFormats := c.safeFormats

/-- Run a validation (`validate`): the settings, the store, the file, the verdict, and then what is printed
of it. -/
def runValidate (c : ValidateCommand) (w : Surroundings) : RunResult :=
  match Settings.ofEnvironment w.environment with
  | .error e => ended w.here c "" [] (.error (.settings e))
  | .ok settings =>
    let (warning, chosen) := chooseStore c w settings
    match chosen with
    | .error f => ended w.here c warning [] (.error f)
    | .ok store =>
      -- the warning is printed before anything is logged
      let audit : Audit := ⟨auditOptions c, settings, store.result⟩
      let (judged, audit) := audit.validateFile w.folder c.path w.here.setOrder
      let calls := (audit.store.map Store.serviceCalls).getD []
      let log := fullLogText c.verbose (store.log ++ judged.log) (writtenBy w c.verbose calls)
      ended w.here c (warning ++ log) calls judged.result

/-! ## Lists of formats -/

/-- The policy that a list of formats is about: that of the names given, or else that of the
settings. -/
def formatsPolicy (names : List String) (env : Environment) : Except Failure Policy :=
  if names.isEmpty then
    match Settings.ofEnvironment env with
    | .ok s => .ok s.safe
    | .error e => .error (.settings e)
  else match Policy.ofNames? names with
    | some p => .ok p
    | none => .error (.setup .emptyPolicy)

/-- Run a list of formats (`formats`). It reads no file and asks no service. -/
def runFormats (names : List String) (w : Surroundings) : RunResult :=
  match formatsPolicy names w.environment with
  | .error f => .failed w.here.stderr f "" "" []
  | .ok p =>
    let printed := formatsText p w.here.stdout
    match printed.error with
    | some e => .failed w.here.stderr (.markup e) printed.text "" []
    | none => ⟨0, printed.text, "", []⟩

/-! ## Commands -/

/-- What arguments that make no command end with. The command-line library (`typer`) prints the help, the
usage and its error boxes itself. -/
def refuse (host : Host) (e : ArgumentError) : RunResult :=
  let shown (console : Console) (b : Block) : String := (Printed.blocks console [b]).text
  match e with
  | .help => ⟨0, shown host.stdout (.verbatim e.message), "", []⟩
  | .usage => ⟨2, "", shown host.stderr (.verbatim e.message), []⟩
  | e => ⟨2, "", shown host.stderr (.box "Error" e.message), []⟩

/-- Run the command of the arguments. -/
def run (args : List String) (w : Surroundings) : RunResult :=
  match Command.parse args with
  | .error e => refuse w.here e
  | .ok (.validate c) => runValidate c w
  | .ok (.formats names) => runFormats names w

end SinkAudit.CommandLine
