import SinkAudit.Failure
import SinkAudit.Json.Writer
import SinkAudit.Terminal.Console

/-!
# Reports

Outcomes, policies and failures as a person or a program reads them. Texts of the user are escaped, so
that they are not taken for markup. Each text is escaped by itself, and some are joined after that: the
messages of a field stand in one cell. So the escaping can be undone by what comes next, and whether a
report can be printed at all is a question about the texts together.

What is to be printed is a list of blocks, and a console prints them one after the other. Each function
here takes the console last; if none is given, it is the wide one. JSON does not go through a console.

- `Printed`: printed text, and the error that stopped the printing, if one did.
- `outcomeText`: an outcome as a line and a table (`print_outcome`); `outcomeJson`: the same as a JSON
  document (`print_outcome_json`).
- `formatsText`: the formats that a policy allows with each codec (`print_formats`).
- `failureText`: the line of a failure (`print_error`).
-/

namespace SinkAudit

/-- Printed text, and the error that stopped the printing, if one did. -/
structure Printed where
  text : String
  error : Option Markup.Error := none

namespace Printed

/-- Print parts in order, up to the first that fails. What was printed before stays printed. -/
def all : List (Except Markup.Error String) → Printed
  | [] => ⟨"", none⟩
  | .error e :: _ => ⟨"", some e⟩
  | .ok s :: rest => let printed := all rest; ⟨s ++ printed.text, printed.error⟩

/-- Print blocks on a console. -/
def blocks (console : Terminal.Console) (bs : List Terminal.Block) : Printed :=
  all (bs.map console.print)

end Printed

/-! ## Outcomes -/

/-- The line of a valid configuration. The bucket is a text of the user, and escaped. -/
def validLine (s : Snapshot) : List Char :=
  "[bold green]VALID[/] bucket=".toList ++ Markup.escapeString s.bucket.text

/-- The line that counts the violations. -/
def invalidLine (o : Outcome) : List Char :=
  ("[bold red]INVALID[/] " ++ toString o.violationCount ++ " violation(s) on "
    ++ toString o.invalidFields.length ++ " field(s)").toList

/-- The cell of a field's messages. They are escaped one by one and joined by line feeds, so that what one
leaves open another may close. -/
def messagesCell (messages : List String) : List Char :=
  if messages.isEmpty then "[dim]ok[/]".toList
  else List.intercalate ['\n'] (messages.map Markup.escapeString)

/-- The value of the field that a name stands for, if any. Nothing stands beside a name that is no
field. -/
def valueCell (s : Snapshot) (name : String) : List Char :=
  Markup.escapeString ((s.toEntries.lookup name).getD "")

/-- The table of an outcome: the fields with messages, or every field with its value. The names of fields
are not escaped; those of the program hold no brackets. -/
def outcomeTable (o : Outcome) (s : Snapshot) (verbose : Bool) : Terminal.Table :=
  let rows := (if verbose then o.report else o.violations).toList
  { title := "Configuration"
    columns := [{ heading := "Field", cells := rows.map (·.1.toList), wraps := false }]
      ++ (if verbose then [{ heading := "Value", cells := rows.map (valueCell s ·.1) }] else [])
      ++ [{ heading := "Errors", cells := rows.map (messagesCell ·.2) }] }

/-- What is printed of an outcome. A valid one is told in a line, with its fields if all are to be shown; an
invalid one is a table and a line behind it. -/
def outcomeBlocks (o : Outcome) (s : Snapshot) (verbose : Bool) : List Terminal.Block :=
  (if o.isValid then [.paragraph (validLine s)] else [])
    ++ (if o.isValid && !verbose then [] else [.table (outcomeTable o s verbose)])
    ++ (if o.isValid then [] else [.paragraph (invalidLine o)])

/-- An outcome as text. -/
def outcomeText (o : Outcome) (s : Snapshot) (verbose : Bool)
    (console : Terminal.Console := .wide) : Printed :=
  .blocks console (outcomeBlocks o s verbose)

/-- An outcome as a JSON document. -/
def outcomeTree (o : Outcome) (s : Snapshot) : Json.Tree :=
  .object [
    ("valid", .flag o.isValid),
    ("config", .object (s.toEntries.map fun e => (e.1, .text e.2))),
    ("errors", .object (o.report.toList.map fun e => (e.1, .list (e.2.map .text))))]

/-- An outcome as JSON text. It is written to standard output as it is, past the console and its markup. -/
def outcomeJson (o : Outcome) (s : Snapshot) : String := (outcomeTree o s).write ++ "\n"

/-! ## Policies and failures -/

/-- The formats that may be used with each codec: any without compression, those of the policy with it. -/
def formatsTable (p : Policy) : Terminal.Table where
  title := "Compression compatibility"
  columns := [
    { heading := "Compression", cells := Codec.all.map (·.name.toList) },
    { heading := "Allowed format classes"
      cells := Codec.all.map fun
        | .none => "any".toList
        | .gzip => Markup.escapeString p.supported }]

/-- What is printed of a policy. -/
def formatsBlocks (p : Policy) : List Terminal.Block :=
  [.table (formatsTable p),
    .paragraph ("[dim]Checked fields: " ++ ", ".intercalate (Field.all.map Field.name)
      ++ "[/]").toList]

/-- A policy as text. -/
def formatsText (p : Policy) (console : Terminal.Console := .wide) : Printed :=
  .blocks console (formatsBlocks p)

/-- The line of a failure, as markup. Its text is escaped whole, so that it can always be printed. -/
def failureLine (f : Failure) : List Char :=
  "[bold red]Error:[/] ".toList ++ Markup.escapeString (Text.shown f.message)

/-- A failure as text. -/
def failureText (f : Failure) (console : Terminal.Console := .wide) : Printed :=
  .blocks console [.paragraph (failureLine f)]

end SinkAudit
