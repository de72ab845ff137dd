import SinkAudit.Document.Basic
import SinkAudit.Number.Reading
import SinkAudit.Number.Shortest
import SinkAudit.Text.Quoted

/-!
# Values as text

Values are written for two reasons: to be shown in an error, and to be compared (`str`, `repr`). The second
makes the exact text matter. Two mentions of a field agree if their texts do, whatever they are values of.

- `Scalar.literal`, `Value.literal`: a value as a literal, with its type visible.
- `Scalar.plainText`, `Value.plainText`: a text is itself, a date or time is written in ISO 8601,
  and everything else is its literal.
- `Value.shown`, `Value.typeName`: a value, and the name of its type, inside a message.
- `Scalar.isTooLong`, `Value.isTooLong`: does the value hold an integer with more digits than may be
  written? To write it is an error, for whoever compares or shows values to report.
-/

namespace SinkAudit

/-- The parts of a time that its literal shows: the date, hour and minute always, seconds if they
or the microseconds are not zero, microseconds if they are not. -/
def DateTime.literalParts (t : DateTime) : List String :=
  [t.date.year, t.date.month, t.date.day, t.hour, t.minute].map toString
    ++ (if t.second = 0 ∧ t.microsecond = 0 then [] else [toString t.second])
    ++ (if t.microsecond = 0 then [] else [toString t.microsecond])
    ++ match t.offset with
      | none => []
      | some 0 => ["tzinfo=datetime.timezone.utc"]
      | some m => ["tzinfo=datetime.timezone(" ++ spanLiteral (m * 60) ++ ")"]

namespace Scalar

/-- A scalar as a literal (`repr`). -/
def literal : Scalar → String
  | null => "None"
  | bool b => if b then "True" else "False"
  | int n => toString n
  | float x => Number.plain.write x
  | text t => Text.quoteText t
  | bytes bs => Text.quoteBytes bs
  | date d =>
    "datetime.date(" ++ ", ".intercalate ([d.year, d.month, d.day].map toString) ++ ")"
  | datetime t => "datetime.datetime(" ++ ", ".intercalate t.literalParts ++ ")"
  | codec c => "<CompressionType." ++ c.label ++ ": " ++ Text.quoteString c.name ++ ">"

/-- A scalar as plain text (`str`). -/
def plainText : Scalar → Text
  | text t => t
  | date d => d.iso
  | datetime t => t.isoWith " "
  | codec c => "CompressionType." ++ c.label
  | s => s.literal

/-- Is the scalar an integer of more digits than may be written? Such integers can be read, in other bases
than ten, but not turned into decimal text. -/
def isTooLong : Scalar → Bool
  | int n => Nat.pow 10 Number.digitLimit ≤ n.natAbs
  | _ => false

/-- The text of the error about such an integer, which the interpreter raises where it would have to be
written. -/
def tooLongMessage : String :=
  "Exceeds the limit (" ++ toString Number.digitLimit ++ " digits) for integer string conversion; "
    ++ "use sys.set_int_max_str_digits() to increase the limit"

end Scalar

namespace Value

mutual

/-- A value as a literal. A set is written in the order in which it lists its members, which is the one
that the value holds. -/
def literal : Value → String
  | scalar s => s.literal
  | list items => "[" ++ ", ".intercalate (literals items) ++ "]"
  | set [] => "set()"
  | set items => "\x7b" ++ ", ".intercalate (items.map Scalar.literal) ++ "\x7d"
  | mapping entries => "\x7b" ++ ", ".intercalate (entryLiterals entries) ++ "\x7d"

/-- The literals of a list. -/
def literals : List Value → List String
  | [] => []
  | v :: rest => v.literal :: literals rest

/-- The literals of the entries of a mapping. -/
def entryLiterals : List (Scalar × Value) → List String
  | [] => []
  | (k, v) :: rest => (k.literal ++ ": " ++ v.literal) :: entryLiterals rest

end

mutual

/-- Does the value hold an integer of more digits than may be written? -/
def isTooLong : Value → Bool
  | scalar s => s.isTooLong
  | list items => anyTooLong items
  | set items => items.any Scalar.isTooLong
  | mapping entries => anyEntryTooLong entries

/-- Does a list hold such an integer? -/
def anyTooLong : List Value → Bool
  | [] => false
  | v :: rest => v.isTooLong || anyTooLong rest

/-- Do the entries of a mapping hold such an integer? -/
def anyEntryTooLong : List (Scalar × Value) → Bool
  | [] => false
  | (k, v) :: rest => k.isTooLong || v.isTooLong || anyEntryTooLong rest

end

/-- A value as plain text (`str`): a text is itself, and every other value is its literal. -/
def plainText : Value → Text
  | scalar s => s.plainText
  | v => v.literal

/-- A value as it is shown in messages. -/
def shown (v : Value) : String := Text.shown v.plainText

/-- The name of a value's type, as the interpreter shows it in the error about values that cannot be
compared. -/
def typeName : Value → String
  | scalar .null => "NoneType"
  | scalar (.bool _) => "bool"
  | scalar (.int _) => "int"
  | scalar (.float _) => "float"
  | scalar (.text _) => "str"
  | scalar (.bytes _) => "bytes"
  | scalar (.date _) => "datetime.date"
  | scalar (.datetime _) => "datetime.datetime"
  | scalar (.codec _) => "CompressionType"
  | list _ => "list"
  | set _ => "set"
  | mapping _ => "dict"

end Value

end SinkAudit
