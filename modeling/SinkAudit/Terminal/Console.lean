import SinkAudit.Terminal.Table

/-!
# Consoles

Whatever is printed is printed block by block: a line of markup, a table of markup, or a text in a box.

Two things have to be told apart about a block. Whether its markup can be rendered is a matter of the
markup alone, and an error there ends the printing (`Block.text`). How a block that can be rendered looks
is a matter of the console. The terminal library (`rich`) takes the width of the console, its colours and
whether it is a terminal at all from the terminal and from the environment: `COLUMNS`, `TERM`, `NO_COLOR`,
`FORCE_COLOR` and others. A narrow console breaks lines and folds cells; a coloured one puts escape
sequences around the styles.

So a console is a parameter, of which nothing is assumed (`Console.present` is any function of the block).
`Console.wide` is the console of the layout that `Terminal.paragraph` and `Table.print` define: without
colours, and so wide that no line has to be broken. Results about the layout are about this console;
results about exit codes, about JSON and about what a run depends on are for every console.
-/

namespace SinkAudit.Terminal

/-- What is printed in one piece. -/
inductive Block where
  | paragraph (markup : List Char)
  | table (t : Table)
  /-- A text that is no markup, in a box under a heading. -/
  | box (heading text : String)
  /-- A text that is printed as it is. -/
  | verbatim (text : String)

/-- How many columns the wide console has. Only a box, which is as wide as the console, shows the number;
it is that of the console on which the layout was tried. -/
def wideColumns : Nat := 1000

/-- The text of a block on the wide console, unless its markup cannot be rendered. -/
def Block.text : Block → Except Markup.Error String
  | paragraph markup => Terminal.paragraph markup
  | table t => t.print
  | box heading text => .ok (boxed wideColumns heading text)
  | verbatim text => .ok text

@[simp] theorem Block.text_paragraph (markup : List Char) :
    (paragraph markup).text = Terminal.paragraph markup := rfl

@[simp] theorem Block.text_table (t : Table) : (table t).text = t.print := rfl

/-- A console: how it shows each block, given the text of the block on the wide console. -/
structure Console where
  present : Block → String → String

namespace Console

/-- The console without colours that is wide enough for every line. -/
def wide : Console := ⟨fun _ text => text⟩

/-- What is printed of a block. What cannot be rendered is printed on no console. -/
def print (console : Console) (b : Block) : Except Markup.Error String :=
  b.text.map (console.present b)

@[simp] theorem print_wide (b : Block) : wide.print b = b.text := by
  unfold print
  cases b.text <;> rfl

end Console

end SinkAudit.Terminal
