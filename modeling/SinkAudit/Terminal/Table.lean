import SinkAudit.Terminal.Line
import SinkAudit.Terminal.Markup
import SinkAudit.Text.Blank

/-!
# Printed lines and tables

Whatever is printed is markup. Its text is shown line by line, without the control characters that
would move the cursor.

The layout here is that of a console which is wide enough for every line and shows no colours: a
paragraph is not broken, and the columns of a table are as wide as their content asks for. How another
console shows the same blocks is not laid out here but left open (`Console`).

A table is printed as a whole or not at all: its cells are rendered before its first line is written, so
that an error in one of them leaves nothing of the table behind (`collect`).

- `display`: the text of markup as it is shown; `paragraph`: its lines as printed text.
- `Table`: a title, headings and rows of cells; `Table.print`: the table in a frame. A column is as wide
  as its widest line, a tab not counting, and a row as high as its highest cell.
-/

namespace SinkAudit.Terminal

/-- Is the character never shown? A bell, a backspace, a vertical tab, a form feed or a carriage
return. -/
def isDropped (c : Char) : Bool := [7, 8, 11, 12, 13].contains c.toNat

/-- The text of markup as it is shown. -/
def display (markup : List Char) : Except Markup.Error (List Char) :=
  (Markup.render markup).map fun cs => cs.filter (!isDropped ·)

/-- Lines as printed text, each with a line feed. -/
def printLines (ls : List (List Char)) : String := String.ofList (ls.flatMap (· ++ ['\n']))

/-- Markup as printed text. -/
def paragraph (markup : List Char) : Except Markup.Error String :=
  (display markup).map fun cs => printLines ((Text.lines cs).map expandTabs)

/-- A column of markup. -/
structure Column where
  heading : String
  cells : List (List Char)
  /-- Do lines break between words? If not, they are cut. -/
  wraps : Bool := true

/-- A table of markup. -/
structure Table where
  title : String
  columns : List Column

/-- A column of a table as it is shown: its heading and the text of each of its cells. -/
structure ShownColumn where
  heading : List Char
  cells : List (List Char)
  wraps : Bool

/-- The results of a function that may fail, or the first failure. -/
def collect {α β ε : Type} (f : α → Except ε β) : List α → Except ε (List β)
  | [] => .ok []
  | a :: rest => match f a with
    | .error e => .error e
    | .ok b => (collect f rest).map (b :: ·)

/-- Does a character end a line when the width of a text is taken? These are more characters than break
the lines of a cell, so a column may be narrower than its widest line, which is then broken or cut. -/
def isLineEnd (c : Char) : Bool := [0xA, 0x1C, 0x1D, 0x1E, 0x85, 0x2028, 0x2029].contains c.toNat

/-- How wide the widest line of a text is. -/
def textWidth (cs : List Char) : Nat := ((cs.splitOnP isLineEnd).map width).foldl max 0

namespace ShownColumn

/-- A column of markup as it is shown. -/
def ofMarkup (c : Column) : Except Markup.Error ShownColumn :=
  (collect display c.cells).map (⟨c.heading.toList, ·, c.wraps⟩)

/-- How wide the column is. -/
def width (c : ShownColumn) : Nat := ((c.heading :: c.cells).map textWidth).foldl max 0

/-- The lines of a text in the column. A line that is too wide even when broken is cut. -/
def linesOf (c : ShownColumn) (cs : List Char) : List (List Char) :=
  (Text.lines cs).flatMap fun line =>
    let line := expandTabs line
    (if c.wraps then wrap c.width line else [line]).map fun l =>
      fit c.width (abbreviate c.width (trimExcess c.width l))

/-- The lines of a row's cell. -/
def cellLines (c : ShownColumn) (row : Nat) : List (List Char) := (c.cells[row]?.map c.linesOf).getD []

end ShownColumn

/-- Pieces between two ends, with a separator between neighbours. -/
def framed (left separator right : Char) (parts : List (List Char)) : List Char :=
  left :: List.intercalate [separator] parts ++ [right]

/-- A line of a frame: a stroke over every column, which has a blank on each side. -/
def stroke (left separator right fill : Char) (widths : List Nat) : List Char :=
  framed left separator right (widths.map fun w => List.replicate (w + 2) fill)

/-- A line of cells. -/
def cellLine (bar : Char) (cells : List (Nat × List Char)) : List Char :=
  framed bar bar bar (cells.map fun (w, cs) => ' ' :: padTo w cs ++ [' '])

/-- The lines of a row: as many as its highest cell has. -/
def rowLines (columns : List ShownColumn) (row : Nat) : List (List Char) :=
  let cells := columns.map fun c => (c.width, c.cellLines row)
  let height := (cells.map (·.2.length)).foldl max 0
  (List.range height).map fun line => cellLine '│' (cells.map fun (w, ls) => (w, ls.getD line []))

/-- A text in the middle of a line, the odd blank standing behind it. -/
def centered (total : Nat) (cs : List Char) : List Char :=
  let spare := total - width cs
  blanks (spare / 2) ++ cs ++ blanks (spare - spare / 2)

/-- A table of shown columns in its frame. -/
def frame (title : List Char) (columns : List ShownColumn) : List (List Char) :=
  let widths := columns.map ShownColumn.width
  let height := (columns.map fun c => c.cells.length).foldl max 0
  centered (widths.foldr (fun w n => w + 3 + n) 1) title
    :: stroke '┏' '┳' '┓' '━' widths
    :: cellLine '┃' (columns.map fun c => (c.width, c.heading))
    :: stroke '┡' '╇' '┩' '━' widths
    :: (List.range height).flatMap (rowLines columns)
    ++ [stroke '└' '┴' '┘' '─' widths]

/-- The table as it is printed on a console that is wide enough for it. No column has to give way, so
that the width of the console does not enter. -/
def Table.print (t : Table) : Except Markup.Error String :=
  (collect ShownColumn.ofMarkup t.columns).map fun columns =>
    printLines (frame t.title.toList columns)

/-- A text in a box as wide as the console, under a heading, as the command-line library shows an error in
the arguments. -/
def boxed (total : Nat) (heading text : String) : String :=
  let top := "╭─ ".toList ++ heading.toList ++ [' ']
  printLines [
    top ++ List.replicate (total - width top - 1) '─' ++ ['╮'],
    ['│', ' '] ++ padTo (total - 4) text.toList ++ [' ', '│'],
    '╰' :: List.replicate (total - 2) '─' ++ ['╯']]

end SinkAudit.Terminal
