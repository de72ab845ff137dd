import SinkAudit.CommandLine.Arguments

/-!
# Leaving an option out of the arguments

What the arguments ask for apart from one option is what they ask for without it. To leave an
option out is to walk along the arguments as they are told apart: the value of another option stays,
even if it looks like this one, and so does what stands behind `--`.

The statement that two argument lists differ in one option alone is easy to make wrongly: filtering the list
for `--store` would take away a file of that name, the value of another option, or an argument behind `--`.
So the option is left out along the rules by which arguments are told apart (`readOption`), and that these
are the parser's rules is `splitArguments_dropOption`.

- `readOption`: what an argument that looks like an option stands for.
- `splitArguments_option`: arguments that begin with one.
- `dropOption`, `Arguments.without`: an option left out, of arguments and of arguments told apart.
- `splitArguments_dropOption`: the two agree.
- `validationOf`, `parse_validate`, `parse_validate_eq_ok_iff`: the validation that arguments ask for.
- `parseValidation_dropStore`: the same without a choice of the store.
-/

namespace SinkAudit.CommandLine

/-! ## Options -/

/-- What an argument that looks like an option stands for. -/
inductive OptionReading where
  /-- No option, or one that is not given as it should be. -/
  | fault (e : ArgumentError)
  /-- An option, with its value if it takes one. -/
  | complete (name value : String)
  /-- An option whose value is the next argument. -/
  | awaiting (name : String)

/-- Read an argument that looks like an option. -/
def readOption (specs : List OptionSpec) (arg : String) : OptionReading :=
  let (name, joined) := splitValue arg
  match specs.find? (·.name == name), joined with
  | none, _ => .fault .usage
  | some spec, some value =>
    if spec.takesValue then .complete name value else .fault (.valueUnexpected name)
  | some spec, none => if spec.takesValue then .awaiting name else .complete name ""

variable {anywhere : Bool} {specs : List OptionSpec} {arg : String}

/-- Arguments that begin with an option are told apart by what it stands for. -/
theorem splitArguments_option (hend : arg ≠ "--") (harg : isOption arg = true)
    (rest : List String) :
    splitArguments anywhere specs (arg :: rest) = match readOption specs arg, rest with
      | .fault e, _ => .error e
      | .complete name value, rest =>
        (splitArguments anywhere specs rest).map (·.withOption name value)
      | .awaiting name, [] => .error (.valueMissing name)
      | .awaiting name, value :: rest =>
        (splitArguments anywhere specs rest).map (·.withOption name value) := by
  rw [splitArguments, if_neg hend, if_pos harg]
  unfold readOption
  dsimp only
  -- a name that is joined to its value never takes the next argument; one that stands alone may
  cases hspec : specs.find? (·.name == (splitValue arg).1) with
  | none => rfl
  | some spec =>
    obtain ⟨given, takesValue⟩ := spec
    dsimp only
    cases (splitValue arg).2 with
    | some value => cases takesValue <;> rfl
    | none =>
      cases takesValue with
      | false => rfl
      | true => cases rest <;> rfl

/-- The arguments without an option, and without its value if it takes one. -/
def dropOption (specs : List OptionSpec) (name : String) : List String → List String
  | [] => []
  | arg :: rest =>
    if arg = "--" then arg :: rest
    else if isOption arg then
      match readOption specs arg, rest with
      | .fault _, rest => arg :: dropOption specs name rest
      | .complete given _, rest =>
        if given = name then dropOption specs name rest else arg :: dropOption specs name rest
      | .awaiting _, [] => [arg]
      | .awaiting given, value :: rest =>
        if given = name then dropOption specs name rest
        else arg :: value :: dropOption specs name rest
    else arg :: dropOption specs name rest

namespace Arguments

/-- Arguments told apart, without an option. -/
def without (a : Arguments) (name : String) : Arguments :=
  { a with options := a.options.filter (·.1 != name) }

variable {a : Arguments} {name other : String}

theorem without_withOption (a : Arguments) (given value name : String) :
    (a.withOption given value).without name
      = if given = name then a.without name else (a.without name).withOption given value := by
  unfold without withOption
  by_cases h : given = name
  · rw [if_pos h]
    dsimp only
    rw [List.filter_cons_of_neg (by simpa using h)]
  · rw [if_neg h]
    dsimp only
    rw [List.filter_cons_of_pos (by simpa using h)]

/-- What is left out is no other option. -/
theorem bne_and_beq (h : other ≠ name) (given : String) :
    (given != name && given == other) = (given == other) := by
  by_cases hgiven : given = other
  · simp [hgiven, h]
  · simp [hgiven]

theorem has_without (h : other ≠ name) : (a.without name).has other = a.has other := by
  unfold has without
  simp only [List.any_filter, bne_and_beq h]

theorem values_without (h : other ≠ name) : (a.without name).values other = a.values other := by
  unfold values without
  simp only [List.filter_filter, Bool.and_comm _ (_ != name), bne_and_beq h]

theorem value?_without (h : other ≠ name) : (a.without name).value? other = a.value? other := by
  rw [value?, value?, values_without h]

/-- The option itself is gone. -/
theorem value?_without_self : (a.without name).value? name = none := by
  unfold value? values without
  simp

end Arguments

/-- To leave an option out after it was put in front is to leave it out of the rest. -/
theorem map_withOption_without (found : Except ArgumentError Arguments)
    (given value name : String) :
    (found.map (·.withOption given value)).map (·.without name)
      = if given = name then found.map (·.without name)
        else (found.map (·.without name)).map (·.withOption given value) := by
  cases found with
  | error e => split <;> rfl
  | ok a =>
    show Except.ok ((a.withOption given value).without name) = _
    rw [Arguments.without_withOption]
    split <;> rfl

/-- To leave an option out of the arguments is to leave it out of what they are told apart into. -/
theorem splitArguments_dropOption (specs : List OptionSpec) (name : String) (args : List String) :
    splitArguments true specs (dropOption specs name args)
      = (splitArguments true specs args).map (·.without name) := by
  -- the cases are those of the walk: the end, the two dashes, the kinds of options, other arguments
  fun_induction dropOption specs name args with
  | case1 => rfl
  | case2 rest =>
    rw [splitArguments, if_pos rfl]
    rfl
  | case3 arg rest hend harg e hread ih =>
    rw [splitArguments_option hend harg, splitArguments_option hend harg, hread]
    rfl
  | case4 arg hend harg value rest hread ih =>
    rw [splitArguments_option hend harg, hread, ih]
    dsimp only
    rw [map_withOption_without, if_pos rfl]
  | case5 arg hend harg given value rest hread hother ih =>
    rw [splitArguments_option hend harg, splitArguments_option hend harg, hread]
    dsimp only
    rw [map_withOption_without, if_neg hother, ih]
  | case6 arg hend harg given hread =>
    rw [splitArguments_option hend harg, hread]
    rfl
  | case7 arg hend harg value rest hread ih =>
    rw [splitArguments_option hend harg, hread, ih]
    dsimp only
    rw [map_withOption_without, if_pos rfl]
  | case8 arg hend harg given value rest hread hother ih =>
    rw [splitArguments_option hend harg, splitArguments_option hend harg, hread]
    dsimp only
    rw [map_withOption_without, if_neg hother, ih]
  | case9 arg rest hend harg ih =>
    rw [splitArguments, if_neg hend, if_neg harg, if_pos rfl, ih, splitArguments, if_neg hend,
      if_neg harg, if_pos rfl]
    cases splitArguments true specs rest <;> rfl

-- The value of `--output`, which is no form of output, and what stands behind `--` are kept.
example : dropOption Command.validateOptions "--store"
    ["--output", "--store", "--store", "fake", "t.json", "--store=s3", "--", "--store"]
    = ["--output", "--store", "t.json", "--", "--store"] := by decide +kernel

/-! ## Validations -/

namespace Command

/-- The validation that arguments told apart ask for. -/
def validationOf (a : Arguments) : Except ArgumentError ValidateCommand :=
  if a.has helpOption.name then .error .help
  else match a.positional, outputOf a with
    | [path], some output =>
      .ok {
        path, output
        skipBucketCheck := a.has "--skip-bucket-check"
        safeFormats := a.values "--safe-format"
        reportAccessErrors := a.has "--report-access-errors"
        store := a.value? "--store"
        verbose := a.has "--verbose" }
    | _, _ => .error .usage

/-- The validation that the arguments behind the name of the command ask for. -/
def parseValidation (args : List String) : Except ArgumentError ValidateCommand :=
  (splitArguments true validateOptions args).bind validationOf

/-- The command of a validation is that of the arguments behind its name. -/
theorem parse_validate (args : List String) :
    parse ("validate" :: args) = (parseValidation args).map .validate := by
  -- the program itself stops at the first argument that is no option of its own
  have hname : splitArguments false [helpOption] ("validate" :: args)
      = .ok ⟨[], "validate" :: args⟩ := by
    rw [splitArguments, if_neg (by decide), if_neg (by decide +kernel), if_neg (by decide)]
  rw [parse, hname]
  show parseValidate args = _
  unfold parseValidate parseValidation
  cases splitArguments true validateOptions args with
  | error e => rfl
  | ok a =>
    show _ = (validationOf a).map Command.validate
    unfold validationOf
    dsimp only
    split
    · rfl
    · match a.positional, outputOf a with
      | [], _ => rfl
      | [_], none => rfl
      | [_], some _ => rfl
      | _ :: _ :: _, _ => rfl

/-- The command is a validation exactly if the arguments behind its name ask for it. -/
theorem parse_validate_eq_ok_iff {args : List String} {c : ValidateCommand} :
    parse ("validate" :: args) = .ok (.validate c) ↔ parseValidation args = .ok c := by
  rw [parse_validate]
  cases parseValidation args with
  | error e => exact iff_of_false nofun nofun
  | ok c' =>
    show Except.ok (Command.validate c') = Except.ok (Command.validate c) ↔ _
    rw [Except.ok.injEq, Command.validate.injEq, Except.ok.injEq]

/-- The arguments without a choice of the store. -/
def dropStore (args : List String) : List String := dropOption validateOptions "--store" args

theorem validationOf_without_store (a : Arguments) :
    validationOf (a.without "--store")
      = (validationOf a).map fun c => { c with store := none } := by
  have houtput : outputOf (a.without "--store") = outputOf a := by
    unfold outputOf
    rw [Arguments.value?_without (by decide)]
  unfold validationOf
  rw [houtput, Arguments.has_without (by decide), Arguments.has_without (by decide),
    Arguments.values_without (by decide), Arguments.has_without (by decide),
    Arguments.value?_without_self, Arguments.has_without (by decide)]
  -- the store is in the command alone; whether there is a command is decided by the rest
  show (if a.has helpOption.name = true then _ else match a.positional, outputOf a with
    | [path], some output => _
    | _, _ => _) = _
  split
  · rfl
  · split <;> rfl

/-- Without a choice of the store, arguments ask for the same validation, with no store chosen. -/
theorem parseValidation_dropStore (args : List String) :
    parseValidation (dropStore args)
      = (parseValidation args).map fun c => { c with store := none } := by
  unfold parseValidation dropStore
  rw [splitArguments_dropOption]
  cases splitArguments true validateOptions args with
  | error e => rfl
  | ok a => exact validationOf_without_store a

end Command

end SinkAudit.CommandLine
