import SinkAudit.Proofs.CommandLine.Arguments
import SinkAudit.Proofs.CommandLine.JsonOutput
import SinkAudit.Proofs.CommandLine.Loading
import SinkAudit.Proofs.Settings

/-!
# Validations that do not check the bucket

A validation that skips the bucket check has no store, and knows of its settings but the policy. So
nothing that is about the storage service can be told from such a run.

Two things that have nothing to do with storage must be left out of this. `--store` takes a value, so that
arguments which end with it are no command. And the environment is not only that of the program: the
interpreter takes a seed from it, and the terminal library the width and the colours of the console. Two
environments are compared under the same `Host` therefore; they may differ in every variable of the program
but the one of the safe formats.

`--skip-bucket-check` is how the command is used where no service can be reached: in a build, or before the
bucket exists. There it must not matter what is configured about storage, right or wrong, nor what is
installed. The settings have to be accepted, as they are checked before the option is looked at.

- `judgeFile`, `validateFile_of_unchecked`: what an audit without a bucket check makes of a file.
- `runOfRules`, `runValidate_of_skip`: the run of a command, the files and a policy.
- `run_validate`, `run_validate_of_skip`: the run of arguments, and without a bucket check.
- `run_skip_noninterference`: runs whose arguments differ in the store alone, and whose surroundings
  have the same files, safe formats and host, are the same.
- `run_skip_told_apart`: a store without its value, and a narrow console, can be told.
-/

namespace SinkAudit.CommandLine

open Command

variable {c : ValidateCommand} {w w' : Surroundings} {settings settings' : Settings}
  {args args' : List String}

/-! ## Audits without a bucket check -/

/-- What a policy makes of the snapshot in a file. -/
def judgeFile (p : Policy) (folder : Folder) (path : String) (order : SetOrder) :
    Logged (Except Failure (Snapshot × Outcome)) :=
  match loadSnapshot folder path order with
  | .error e => ⟨.error (.ofFile e), []⟩
  | .ok s =>
    let judged := ({ policy := p } : Validator).validateRules s
    ⟨.ok (s, judged.result), judged.log⟩

/-- Without a bucket check an audit makes of a file what its policy does, and is left as it was. -/
theorem validateFile_of_unchecked {a : Audit} (h : a.options.checkBucket = false) (folder : Folder)
    (path : String) (order : SetOrder) :
    a.validateFile folder path order = (judgeFile a.policy folder path order, a) := by
  unfold Audit.validateFile judgeFile
  cases loadSnapshot folder path order with
  | error e => rfl
  | ok s =>
    unfold Audit.validate
    rw [h]
    rfl

/-! ## Runs of a command -/

/-- The run of a validation that asks no store. -/
def runOfRules (host : Host) (c : ValidateCommand) (folder : Folder) (p : Policy) : RunResult :=
  let judged := judgeFile p folder c.path host.setOrder
  ended host c (fullLogText c.verbose judged.log "") [] judged.result

/-- The policy of a validation under given settings. -/
def policyOf (c : ValidateCommand) (settings : Settings) : Policy :=
  (Policy.ofSet? c.safeFormats).getD settings.safe

/-- A run without a bucket check knows of the surroundings but the files and the host, and of the settings
but the policy. -/
theorem runValidate_of_skip (hsettings : Settings.ofEnvironment w.environment = .ok settings)
    (hskip : c.skipBucketCheck = true) :
    runValidate c w = runOfRules w.here c w.folder (policyOf c settings) := by
  -- no store is chosen and none is asked, so that what is left are the rules on the file
  have hunchecked : (auditOptions c).checkBucket = false := by
    rw [auditOptions, hskip]
    rfl
  have hchosen : chooseStore c w settings = ("", .ok ⟨none, []⟩) := by
    rw [chooseStore, if_pos hskip]
  have hfile : Audit.validateFile ⟨auditOptions c, settings, none⟩ w.folder c.path w.here.setOrder
      = (judgeFile (policyOf c settings) w.folder c.path w.here.setOrder,
          ⟨auditOptions c, settings, none⟩) :=
    validateFile_of_unchecked hunchecked w.folder c.path w.here.setOrder
  have hrun := runValidate_of_store hsettings hchosen
  dsimp only at hrun
  rw [hfile, String.empty_append, List.nil_append] at hrun
  exact hrun

/-! ## Runs of arguments -/

/-- The run of arguments behind the name of the command. -/
theorem run_validate (args : List String) (w : Surroundings) :
    run ("validate" :: args) w = match parseValidation args with
      | .error e => refuse w.here e
      | .ok c => runValidate c w := by
  rw [run, parse_validate]
  cases parseValidation args <;> rfl

/-- Without a bucket check, the run of arguments is that of the same without a choice of the store, and
knows of the surroundings but the files, the host and the policy. -/
theorem run_validate_of_skip (hsettings : Settings.ofEnvironment w.environment = .ok settings)
    (hskip : ∀ c, parseValidation args = .ok c → c.skipBucketCheck = true) :
    run ("validate" :: args) w = match parseValidation (dropStore args) with
      | .error e => refuse w.here e
      | .ok c => runOfRules w.here c w.folder (policyOf c settings) := by
  rw [run_validate, parseValidation_dropStore]
  cases hparse : parseValidation args with
  | error e => rfl
  | ok c => exact runValidate_of_skip hsettings (hskip c hparse)

/-- Arguments that differ in the store alone skip the bucket check together. -/
theorem skip_of_dropStore_eq (hargs : dropStore args' = dropStore args)
    (hskip : ∀ c, parseValidation args = .ok c → c.skipBucketCheck = true) :
    ∀ c, parseValidation args' = .ok c → c.skipBucketCheck = true := by
  intro c' hparse'
  -- both argument lists mean the same without the store, and the option is another one
  have hsame := parseValidation_dropStore args'
  rw [hargs, parseValidation_dropStore, hparse'] at hsame
  cases hparse : parseValidation args with
  | error e =>
    rw [hparse] at hsame
    cases hsame
  | ok c =>
    rw [hparse] at hsame
    injection hsame with hsame
    have hflag : c.skipBucketCheck = c'.skipBucketCheck := congrArg (·.skipBucketCheck) hsame
    rw [← hflag, hskip c hparse]

/-- Nothing about the storage service can be told from runs that skip the bucket check. If the
arguments of two such runs differ in the choice of the store alone, the same files are there, both
environments are accepted and name the same safe formats, and the interpreter and its libraries make the
same of them (`hhere`), then the runs are the same: the exit code and all that is printed. No call is made
to the service, and neither run has a store that it could ask. -/
theorem run_skip_noninterference (hargs : dropStore args' = dropStore args)
    (hskip : ∀ c, Command.parse ("validate" :: args) = .ok (.validate c) → c.skipBucketCheck = true)
    (hfolder : w'.folder = w.folder) (hhere : w'.here = w.here)
    (hsettings : Settings.ofEnvironment w.environment = .ok settings)
    (hsettings' : Settings.ofEnvironment w'.environment = .ok settings')
    (hformats : w'.environment.get .safeFormats = w.environment.get .safeFormats) :
    run ("validate" :: args') w' = run ("validate" :: args) w
      ∧ (run ("validate" :: args) w).calls = []
      ∧ (∀ c, Command.parse ("validate" :: args) = .ok (.validate c) →
          auditOf c w = .ok ⟨auditOptions c, settings, none⟩)
      ∧ ∀ c, Command.parse ("validate" :: args') = .ok (.validate c) →
          auditOf c w' = .ok ⟨auditOptions c, settings', none⟩ := by
  simp only [parse_validate_eq_ok_iff] at hskip ⊢
  have hskip' := skip_of_dropStore_eq hargs hskip
  -- all that is left of the settings is the policy, and that is read off one variable
  have hpolicy : ∀ c, policyOf c settings' = policyOf c settings := by
    intro c
    rw [policyOf, policyOf, Settings.safe_eq_of_get_eq hsettings hsettings' hformats]
  have hrun := run_validate_of_skip hsettings hskip
  have hrun' := run_validate_of_skip hsettings' hskip'
  simp only [hargs, hfolder, hhere, hpolicy] at hrun'
  refine ⟨hrun'.trans hrun.symm, ?_, fun c hc => auditOf_of_skip hsettings (hskip c hc),
    fun c hc => auditOf_of_skip hsettings' (hskip' c hc)⟩
  rw [hrun]
  cases parseValidation (dropStore args) with
  | error e => cases e <;> rfl
  | ok c => exact calls_ended w.here c _ _ _

/-- The same sink where another service is to be asked, without credentials, none of its packages is
installed, every request fails, and a store in memory is wanted but not there. -/
def unreachableSink : Surroundings :=
  { safeSink with
    environment := fun name => match name with
      | "SINKCHECK_STORAGE_BACKEND" => some " AZ "
      | "SINKCHECK_STORAGE_TIMEOUT" => some "5"
      | "SINKCHECK_STORE" => some "fake"
      | "SINKCHECK_FAKE_BUCKETS" => some "a,b"
      | _ => none
    service := ⟨fun _ => false, .failed .noCredentials⟩
    hasMemoryStore := false }

/-- The validation of a sink out of reach ends as that of one within reach, without a violation. -/
theorem run_skip_unreachableSink :
    run ["validate", "--store", "fake", "t.properties", "--skip-bucket-check", "--store=s3"]
        unreachableSink
      = run ["validate", "t.properties", "--skip-bucket-check"] safeSink
    ∧ (run ["validate", "t.properties", "--skip-bucket-check"] safeSink).exitCode = 0 := by
  have hargs : dropStore ["--store", "fake", "t.properties", "--skip-bucket-check", "--store=s3"]
      = dropStore ["t.properties", "--skip-bucket-check"] := by decide +kernel
  have hparse : Command.parse ["validate", "t.properties", "--skip-bucket-check"]
      = .ok (.validate { path := "t.properties", skipBucketCheck := true }) := by decide +kernel
  have hskip : ∀ c, Command.parse ["validate", "t.properties", "--skip-bucket-check"]
      = .ok (.validate c) → c.skipBucketCheck = true := by
    intro c hc
    rw [hparse] at hc
    cases hc
    rfl
  obtain ⟨settings, hsettings⟩ : ∃ settings,
      Settings.ofEnvironment safeSink.environment = .ok settings := ⟨_, rfl⟩
  -- that the settings are accepted is decided, which spares writing them down
  obtain ⟨settings', hsettings'⟩ : ∃ settings',
      Settings.ofEnvironment unreachableSink.environment = .ok settings' := by
    have haccepted : (Settings.ofEnvironment unreachableSink.environment).isOk = true := by
      decide +kernel
    cases hread : Settings.ofEnvironment unreachableSink.environment with
    | error e =>
      rw [hread] at haccepted
      cases haccepted
    | ok settings' => exact ⟨settings', rfl⟩
  have hfolder : unreachableSink.folder = safeSink.folder := rfl
  have hformats : unreachableSink.environment.get .safeFormats
      = safeSink.environment.get .safeFormats := by decide +kernel
  refine ⟨(run_skip_noninterference hargs hskip hfolder rfl hsettings hsettings' hformats).1, ?_⟩
  decide +kernel

/-! ## What can be told -/

/-- An environment that only says how wide the console is. -/
def columnsEnvironment (columns : String) : Environment := fun name =>
  if name = "COLUMNS" then some columns else none

/-- A console of a number of columns, which breaks longer lines, and shows every block as lines. -/
def foldingConsole (columns : Nat) : Terminal.Console where
  present _ text := Terminal.printLines
    ((Text.lines text.toList).dropLast.flatMap (Terminal.wrap columns))

/-- What a terminal library makes of an environment that may say how wide the console is. -/
def columnsHost (env : Environment) : Host where
  stdout := match env "COLUMNS" with
    | some columns =>
      foldingConsole (Text.numberOf 10 (columns.toList.filterMap Text.asciiDigit?))
    | none => .wide

/-- Runs that skip the bucket check are told apart by a store that lacks its value, which makes no command
of the arguments; and by a variable that is none of the program's, but makes the console so narrow that the
line of a valid configuration is broken. -/
theorem run_skip_told_apart :
    ((run ["validate", "t.properties", "--skip-bucket-check"] safeSink).exitCode = 0
      ∧ (run ["validate", "t.properties", "--skip-bucket-check", "--store"] safeSink).exitCode = 2)
    ∧ let w : Surroundings := { safeSink with host := columnsHost }
      let w' : Surroundings := { w with environment := columnsEnvironment "8" }
      (Settings.ofEnvironment w.environment).isOk = true
        ∧ (Settings.ofEnvironment w'.environment).isOk = true
        ∧ w'.environment.get .safeFormats = w.environment.get .safeFormats
        ∧ (run ["validate", "t.properties", "--skip-bucket-check"] w).stdout = "VALID bucket=b\n"
        ∧ (run ["validate", "t.properties", "--skip-bucket-check"] w').stdout
          = "VALID \nbucket=b\n" := by
  decide +kernel

end SinkAudit.CommandLine
