import SinkAudit.Text.Basic

/-!
# Blanks, trimming and lines

Two sets of blanks are in use. `isWhiteSpace` is the Unicode property White_Space; accepted values
are trimmed by it. `isBlank` holds also the four information separators U+001C to U+001F; names,
codecs and everything that is compared before it is accepted are trimmed by that.

The difference is no accident of this development. Values are compared after `str.strip`, and kept after
the trimming of the validation library, so that two values may pass for equal of which one keeps a
separator in front. It is the cause of more than one result here.

- `trimBy`: a list without the members of a class at its two ends.
- `strip`, `stripString`: trimming by `isBlank`.
- `trimString`: trimming by `isWhiteSpace`.
- `normalizeBreaks`: text as it is read from a file, where every line ends in a line feed.
- `dropFinalBreak`: text without the one line feed that may end it.
- `lines`: the pieces between line feeds.
-/

namespace SinkAudit.Text

/-- The Unicode property White_Space. -/
def isWhiteSpace (c : Char) : Bool :=
  let n := c.toNat
  (9 ≤ n && n ≤ 13) || n == 0x20 || n == 0x85 || n == 0xA0 || n == 0x1680
    || (0x2000 ≤ n && n ≤ 0x200A) || n == 0x2028 || n == 0x2029 || n == 0x202F || n == 0x205F
    || n == 0x3000

/-- White space, and the information separators. -/
def isBlank (c : Char) : Bool := isWhiteSpace c || (0x1C ≤ c.toNat && c.toNat ≤ 0x1F)

/-- The list between its first and its last member outside the class. -/
def trimBy {α : Type} (p : α → Bool) (xs : List α) : List α :=
  ((xs.dropWhile p).reverse.dropWhile p).reverse

/-- A text without blanks at its ends. -/
def strip (t : Text) : Text := trimBy (·.satisfies isBlank) t

/-- A string without blanks at its ends. -/
def stripString (s : String) : String := String.ofList (trimBy isBlank s.toList)

/-- A string without white space at its ends. -/
def trimString (s : String) : String := String.ofList (trimBy isWhiteSpace s.toList)

/-! ## Lines -/

/-- Every carriage return, with the line feed that may follow it, as one line feed. -/
def normalizeBreaks : List Char → List Char
  | [] => []
  | '\r' :: '\n' :: rest => '\n' :: normalizeBreaks rest
  | '\r' :: rest => '\n' :: normalizeBreaks rest
  | c :: rest => c :: normalizeBreaks rest

/-- A text without the line feed at its end, if it has one. -/
def dropFinalBreak (cs : List Char) : List Char :=
  if cs.getLast? == some '\n' then cs.dropLast else cs

/-- The pieces of a text between its line feeds: one more than there are line feeds. -/
def lines (cs : List Char) : List (List Char) := cs.splitOn '\n'

end SinkAudit.Text
