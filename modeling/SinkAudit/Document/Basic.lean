import SinkAudit.Calendar
import SinkAudit.Field
import SinkAudit.Number.Binary64
import SinkAudit.OrderedMap
import SinkAudit.Text.Basic

/-!
# Document values

What a configuration document can say, whichever notation it is written in. JSON has less to say than YAML,
and a property file has texts alone; a program that makes a snapshot from values of its own may pass the
member of an enumeration besides (`codec`), which is why that is a scalar too.

Equality of values is not asked for, except for keys. There it is the equality of the language that the
program is written in, which does not tell numbers of different types apart. It is no equality of scalars as
data, and `==` is not lawful for them.

- `Scalar`: a value without parts. Scalars are the keys of mappings; two keys are equal (`==`) when
  they denote the same truth value, number, text, row of bytes or moment, so that `1`, `1.0` and
  `true` are one key.
- `Value`: a scalar, list, set or mapping.
- `Properties`: a mapping of keys to values, without repeated keys.
-/

namespace SinkAudit

/-- A value without parts. All types of the two notations are here, as any of them may stand in a document. -/
inductive Scalar where
  | null
  | bool (b : Bool)
  | int (n : Int)
  | float (x : Float)
  | text (t : Text)
  | bytes (bs : List UInt8)
  | date (d : Date)
  | datetime (t : DateTime)
  | codec (c : Codec)

namespace Scalar

/-- The whole number that a truth value or an integer counts as, wherever numbers are compared. -/
def whole? : Scalar → Option Int
  | bool b => some (if b then 1 else 0)
  | int n => some n
  | _ => none

/-- Two floats are the same key: they have the same bits, or both are zero. A float that is no number
does not equal itself, but a mapping that has the very object as a key finds it. -/
def sameFloat (x y : Float) : Bool :=
  x.toBits == y.toBits || (Binary64.equalsInt x 0 && Binary64.equalsInt y 0)

/-- Are two scalars the same key? Numbers are compared by value across their types. -/
def sameKey : Scalar → Scalar → Bool
  | float x, float y => sameFloat x y
  | float x, other => other.whole?.any (Binary64.equalsInt x)
  | other, float y => other.whole?.any (Binary64.equalsInt y)
  | null, null => true
  | text s, text t => s == t
  | bytes s, bytes t => s == t
  | date s, date t => s == t
  | datetime s, datetime t => s.sameMoment t
  | codec c, codec d => c == d
  -- what is left are whole numbers and truth values, or values of different kinds
  | a, b => match a.whole?, b.whole? with
    | some m, some n => m == n
    | _, _ => false

instance : BEq Scalar := ⟨sameKey⟩

instance : Coe String Scalar := ⟨fun s => text (Text.ofString s)⟩

end Scalar

/-- A value of a document, as the readers of the notations leave it. -/
inductive Value where
  | scalar (s : Scalar)
  | list (items : List Value)
  /-- A set, with its members in the order in which it lists them. That is an order of the set's own and
  not the one in which the members were put in, and the text of the set shows it. -/
  | set (items : List Scalar)
  | mapping (entries : List (Scalar × Value))

namespace Value

instance : Coe Scalar Value := ⟨scalar⟩

/-- The value of a string. -/
def ofString (s : String) : Value := scalar (.text (Text.ofString s))

/-- Does the value have named or numbered parts, so that it fits into no flat mapping? A set has members
but no parts with a place of their own, and is let through. -/
def isNested : Value → Bool
  | list _ => true
  | mapping _ => true
  | _ => false

/-- Does the value count as true (`bool`)? Nothing, zero and whatever is empty do not. -/
def isTruthy : Value → Bool
  | scalar .null => false
  | scalar (.bool b) => b
  | scalar (.int n) => n != 0
  | scalar (.float x) => !Binary64.equalsInt x 0
  | scalar (.text t) => !t.isEmpty
  | scalar (.bytes bs) => !bs.isEmpty
  | scalar _ => true
  | list items => !items.isEmpty
  | set items => !items.isEmpty
  | mapping entries => !entries.isEmpty

/-- Is the value this number? -/
def isNumber (n : Int) : Value → Bool
  | scalar s => s == .int n
  | _ => false

/-- The text that the value is, a codec counting as its name. -/
def text? : Value → Option Text
  | scalar (.text t) => some t
  | scalar (.codec c) => some (Text.ofString c.name)
  | _ => none

end Value

/-- A mapping of keys to values in the order given: a configuration before it is read. -/
abbrev Properties := OrderedMap Scalar Value

end SinkAudit
