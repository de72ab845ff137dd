import SinkAudit.Text.Quoted

/-!
# Arguments of the command line

The arguments are parsed by a library (`typer`) from the declarations of the two commands, and what is
modelled is what it makes of those declarations. Options may stand anywhere among the other arguments of a
command, and come in any order; the last value of an option that is given twice counts, unless all of them
do. Nothing is taken for an abbreviation.

Arguments that make no command end the run before anything is read. What is printed then is made by the
library as well, and only the parts of it that say something about the arguments are spelled out.

- `OptionSpec`, `splitArguments`: options stand before `--`; one that takes a value takes it after an
  equals sign or from the next argument.
- `Command`: what the program is told to do; `Command.parse`: the command of the arguments.
- `ArgumentError`: why there is no command.
-/

namespace SinkAudit.CommandLine

/-- An option that may be given, with or without a value. -/
structure OptionSpec where
  name : String
  takesValue : Bool
  deriving DecidableEq

/-- Why arguments make no command. The parser answers them itself: help is printed and the exit code is zero;
anything else is printed to standard error, and the exit code is two. -/
inductive ArgumentError where
  /-- Help was asked for. -/
  | help
  /-- The arguments do not fit the command. -/
  | usage
  /-- An option lacks its value. -/
  | valueMissing (option : String)
  /-- An option that takes no value was given one. -/
  | valueUnexpected (option : String)
  deriving DecidableEq

/-- The text of the error. The texts of the help and of the usage, which the command-line library makes
from the declarations of the commands, are not spelled out; one mark stands for either. -/
def ArgumentError.message : ArgumentError → String
  | help | usage => "<usage>"
  | valueMissing option => "Option " ++ Text.quoteString option ++ " requires an argument."
  | valueUnexpected option => "Option " ++ Text.quoteString option ++ " does not take a value."

/-- Arguments told apart. -/
structure Arguments where
  /-- The options in order, each with its value if it takes one. -/
  options : List (String × String)
  positional : List String
  deriving DecidableEq

/-- Does an argument look like an option? -/
def isOption (arg : String) : Bool := arg.startsWith "-" && arg != "-"

/-- An option without the value joined to it, and that value. The first equals sign joins, so that a value
may hold others. -/
def splitValue (arg : String) : String × Option String :=
  match arg.toList.dropWhile (· != '=') with
  | [] => (arg, none)
  | _ :: value => (String.ofList (arg.toList.takeWhile (· != '=')), some (String.ofList value))

/-- Add an option in front. Options are kept in the order in which they stand among the arguments. -/
def Arguments.withOption (name value : String) (a : Arguments) : Arguments :=
  { a with options := (name, value) :: a.options }

/-- Tell options from other arguments: up to `--`, and up to the first argument that is no option
unless options may stand anywhere. What follows an option that takes a value is its value, even if it looks
like an option itself. -/
def splitArguments (anywhere : Bool) (specs : List OptionSpec) :
    List String → Except ArgumentError Arguments
  | [] => .ok ⟨[], []⟩
  | arg :: rest =>
    -- two dashes end the options
    if arg = "--" then .ok ⟨[], rest⟩
    else if isOption arg then
      let (name, joined) := splitValue arg
      match specs.find? (·.name == name) with
      | none => .error .usage
      | some spec =>
        match joined with
        | some value =>
          if spec.takesValue then (splitArguments anywhere specs rest).map (·.withOption name value)
          else .error (.valueUnexpected name)
        | none =>
          if spec.takesValue then
            match rest with
            | [] => .error (.valueMissing name)
            -- the next argument is the value, whatever it looks like
            | value :: rest => (splitArguments anywhere specs rest).map (·.withOption name value)
          else (splitArguments anywhere specs rest).map (·.withOption name "")
    else if anywhere then
      (splitArguments anywhere specs rest).map fun a => { a with positional := arg :: a.positional }
    else .ok ⟨[], arg :: rest⟩

namespace Arguments

/-- Was the option given? -/
def has (a : Arguments) (name : String) : Bool := a.options.any (·.1 == name)

/-- All values of an option. -/
def values (a : Arguments) (name : String) : List String :=
  (a.options.filter (·.1 == name)).map Prod.snd

/-- The last value of an option. An option that takes one value may be given several times, and the last
counts. -/
def value? (a : Arguments) (name : String) : Option String := (a.values name).getLast?

end Arguments

/-- The forms of output (`OutputFormat`). -/
inductive OutputForm where
  | text
  | json
  deriving DecidableEq

/-- What a validation is told (`validate`). -/
structure ValidateCommand where
  path : String
  skipBucketCheck : Bool := false
  safeFormats : List String := []
  reportAccessErrors : Bool := false
  output : OutputForm := .text
  store : Option String := none
  verbose : Bool := false
  deriving DecidableEq

/-- What the program is told to do: `validate` a file, or list `formats`. -/
inductive Command where
  | validate (c : ValidateCommand)
  | formats (safeFormats : List String)
  deriving DecidableEq

namespace Command

/-- The option that asks for help. -/
def helpOption : OptionSpec := ⟨"--help", false⟩

/-- The options of a validation. -/
def validateOptions : List OptionSpec :=
  [⟨"--skip-bucket-check", false⟩, ⟨"--safe-format", true⟩, ⟨"--report-access-errors", false⟩,
    ⟨"--output", true⟩, ⟨"--store", true⟩, ⟨"--verbose", false⟩, helpOption]

/-- The options of a list of formats. -/
def formatsOptions : List OptionSpec := [⟨"--safe-format", true⟩, helpOption]

/-- The form of output that the arguments choose, if it is one that there is. -/
def outputOf (a : Arguments) : Option OutputForm :=
  match a.value? "--output" with
  | none => some .text
  | some s => if s = "text" then some .text else if s = "json" then some .json else none

/-- The validation that the arguments ask for, or the help about it. -/
def parseValidate (args : List String) : Except ArgumentError Command :=
  match splitArguments true validateOptions args with
  | .error e => .error e
  | .ok a =>
    if a.has helpOption.name then .error .help
    else match a.positional, outputOf a with
      | [path], some output =>
        .ok (.validate {
          path, output
          skipBucketCheck := a.has "--skip-bucket-check"
          safeFormats := a.values "--safe-format"
          reportAccessErrors := a.has "--report-access-errors"
          store := a.value? "--store"
          verbose := a.has "--verbose" })
      | _, _ => .error .usage

/-- The list of formats that the arguments ask for. -/
def parseFormats (args : List String) : Except ArgumentError Command :=
  match splitArguments true formatsOptions args with
  | .error e => .error e
  | .ok a =>
    if a.has helpOption.name then .error .help
    else if a.positional.isEmpty then .ok (.formats (a.values "--safe-format"))
    else .error .usage

/-- The command of a name, with the arguments after it. -/
def parseNamed : List String → Except ArgumentError Command
  | "validate" :: args => parseValidate args
  | "formats" :: args => parseFormats args
  | _ => .error .usage

/-- The command of all arguments. Before its name only help may be asked for; to leave out the name is an
error of usage, as is a name of no command. -/
def parse (args : List String) : Except ArgumentError Command :=
  match splitArguments false [helpOption] args with
  | .error e => .error e
  | .ok a => if a.has helpOption.name then .error .help else parseNamed a.positional

end Command

end SinkAudit.CommandLine
