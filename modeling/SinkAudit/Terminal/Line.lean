import SinkAudit.Terminal.Width
import SinkAudit.Text.Blank

/-!
# Lines of a given width

Widths are counted in columns of the terminal and not in characters (`Terminal.Width`), and a line is cut
between clusters only. Where a cluster of two columns does not fit into the last one, a blank takes its
place.

- `padTo`: a line with blanks up to a width; `fit`: a line of exactly that width, cut if it is longer.
- `abbreviate`: a line of that width that ends in an ellipsis if it had to be cut.
- `expandTabs`: a line in which every tab is blanks up to the next multiple of eight columns.
- `wrap`: a line as lines that break between words.
-/

namespace SinkAudit.Terminal

open Text

/-- Blanks. -/
def blanks (n : Nat) : List Char := List.replicate n ' '

/-- A line with blanks up to a width. -/
def padTo (n : Nat) (cs : List Char) : List Char := cs ++ blanks (n - width cs)

/-- The first columns of clusters. A wide cluster that crosses the edge leaves a blank. -/
def takeColumns (n : Nat) : List Cluster → List Char
  | [] => []
  | k :: rest =>
    if n = 0 then [] else if n < k.width then [' '] else k.chars ++ takeColumns (n - k.width) rest

/-- A line of a width: with blanks behind it, or cut. -/
def fit (n : Nat) (cs : List Char) : List Char :=
  if width cs ≤ n then padTo n cs else takeColumns n (clusters cs)

/-- A line of a width: with blanks behind it, or cut with an ellipsis at the end. -/
def abbreviate (n : Nat) (cs : List Char) : List Char :=
  if width cs ≤ n then padTo n cs else fit (n - 1) cs ++ ['…']

/-! ## Tabs -/

/-- The line from a column on whose parts stand before tabs, but for the last: a tab is a blank, and
blanks follow it up to the next multiple of eight columns. -/
def joinTabbed (column : Nat) : List (List Char) → List Char
  | [] => []
  | [last] => last
  | part :: rest =>
    let cell := part ++ [' ']
    let reached := column + width cell
    let spare := (8 - reached % 8) % 8
    cell ++ blanks spare ++ joinTabbed (reached + spare) rest

/-- A line with blanks for its tabs. -/
def expandTabs (cs : List Char) : List Char := joinTabbed 0 (cs.splitOn '\t')

/-! ## Words -/

/-- A line in words, each with the blanks behind it. Blanks at the start are a word of their own. -/
def words (cs : List Char) : List (List Char) := cs.splitBy fun a b => isBlank b || !isBlank a

/-- A text without blanks at its end. -/
def trimEnd (cs : List Char) : List Char := (cs.reverse.dropWhile isBlank).reverse

/-- A line without the blanks at its end, but for those that stand within so many characters. -/
def trimExcess (n : Nat) (cs : List Char) : List Char :=
  cs.take (max n (trimEnd cs).length)

/-- The lines of words, given the line so far and its last column. A word that does not fit goes to
the next line; blanks behind a word may stand out. -/
def wrapAfter (n : Nat) (line : List Char) (column : Nat) : List (List Char) → List (List Char)
  | [] => [line]
  | word :: rest =>
    if column + width (trimEnd word) ≤ n then
      wrapAfter n (line ++ word) (column + width word) rest
    else line :: wrapAfter n word (width word) rest

/-- A line as lines of a width, as far as its words allow it. The blanks at its start stay with its
first word. -/
def wrap (n : Nat) (cs : List Char) : List (List Char) :=
  match words (cs.dropWhile isBlank) with
  | [] => [cs]
  | word :: rest =>
    let first := cs.takeWhile isBlank ++ word
    wrapAfter n first (width first) rest

end SinkAudit.Terminal
