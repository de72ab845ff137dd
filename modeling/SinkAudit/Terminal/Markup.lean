import SinkAudit.Terminal.Action
import SinkAudit.Terminal.Style

/-!
# Style markup

Printed text may hold tags in brackets: `[bold]` opens a style, `[/bold]` closes it, and `[/]` closes
the style opened last. A bracket begins a tag only before a small letter, `#`, `/` or `@`, and the tag
ends at the next bracket, which has to close it. Backslashes before a tag stand for half as many, and
an odd one takes the tag for text. After an equals sign a tag has parameters.

What is printed here is the text of configurations, and that may hold brackets. Two functions of the
terminal library (`rich.markup`) meet on it: `escape` puts a backslash before what would be a tag, and
`render` takes both away again. They are not inverse to each other. A text that ends in a backslash gains
another one, which nothing takes away, and texts that are escaped one by one may make a tag together. Where
they agree is the subject of `SinkAudit.Proofs.Terminal.Comparison`.

Styles have no colours here. A style is opened and closed, and has a name by which a closing tag finds it;
what it looks like is the console's matter.

- `Piece`, `pieces`: markup as characters and tags.
- `escape`: markup for a text, with a backslash before whatever would be a tag.
- `render`: the text of markup, without its styles; a tag that closes nothing is an error, and so is one
  that closes an action whose parameters make no sense.
-/

namespace SinkAudit.Markup

/-- May the text of a tag begin with this character? -/
def isTagStart (c : Char) : Bool := ('a' ≤ c && c ≤ 'z') || c == '#' || c == '/' || c == '@'

/-- The text of the tag that an opening bracket begins, given what follows the bracket, and what
follows the tag. -/
def tagAfter? : List Char → Option (List Char × List Char)
  | [] => none
  | c :: rest =>
    let isInner (c : Char) : Bool := c != '[' && c != ']'
    -- a second opening bracket before the closing one leaves the first as a character
    match isTagStart c, rest.dropWhile isInner with
    | true, ']' :: after => some (c :: rest.takeWhile isInner, after)
    | _, _ => none

/-- The number of backslashes before a tag, the text of the tag, and what follows it, if the markup
begins like that. -/
def escapedTag? (slashes : Nat) : List Char → Option (Nat × List Char × List Char)
  | '\\' :: rest => escapedTag? (slashes + 1) rest
  | '[' :: rest => (tagAfter? rest).map fun (body, after) => (slashes, body, after)
  | _ => none

/-- A piece of markup. -/
inductive Piece where
  | char (c : Char)
  /-- A tag, after so many backslashes. -/
  | tag (slashes : Nat) (body : List Char)
  deriving DecidableEq

theorem length_tagAfter? {cs body after : List Char} (h : tagAfter? cs = some (body, after)) :
    after.length < cs.length := by
  cases cs with
  | nil => simp [tagAfter?] at h
  | cons c rest =>
    simp only [tagAfter?] at h
    split at h
    · next after' _ heq =>
      simp at h
      have hle := (List.dropWhile_suffix (l := rest) fun c => c != '[' && c != ']').length_le
      rw [heq] at hle
      simp at hle
      simp [← h.2]
      omega
    · simp at h

theorem length_escapedTag? {cs body after : List Char} {slashes n : Nat}
    (h : escapedTag? slashes cs = some (n, body, after)) : after.length < cs.length := by
  fun_induction escapedTag? slashes cs with
  | case1 _ rest ih => exact Nat.lt_succ_of_lt (ih h)
  | case2 _ rest =>
    obtain ⟨⟨b, a⟩, hb, heq⟩ := Option.map_eq_some_iff.1 h
    simp at heq
    have := length_tagAfter? hb
    simp [← heq.2.2]
    omega
  | case3 => simp at h

/-- The pieces of markup. -/
def pieces (cs : List Char) : List Piece :=
  match _h : escapedTag? 0 cs with
  | some (slashes, body, after) => .tag slashes body :: pieces after
  | none => match cs with
    | [] => []
    | c :: rest => .char c :: pieces rest
termination_by cs.length
decreasing_by
  · exact length_escapedTag? ‹_›
  · simp

/-- The characters of a tag. -/
def bracketed (body : List Char) : List Char := '[' :: body ++ [']']

/-- The escaped form of a piece. -/
def Piece.escape : Piece → List Char
  | char c => [c]
  | tag slashes body => List.replicate (2 * slashes + 1) '\\' ++ bracketed body

/-- Does a text end in one backslash and not in two? Three of them count as two: only the last two
characters are looked at. -/
def endsInSingleSlash (cs : List Char) : Bool :=
  match cs.reverse with
  | '\\' :: '\\' :: _ => false
  | '\\' :: _ => true
  | _ => false

/-- Markup for a text. A single backslash at its end is doubled, lest it escape what follows. -/
def escape (cs : List Char) : List Char :=
  let escaped := (pieces cs).flatMap Piece.escape
  if endsInSingleSlash escaped then escaped ++ ['\\'] else escaped

/-- Markup for a string. -/
def escapeString (s : String) : List Char := escape s.toList

/-! ## Rendering -/

/-- A tag that cannot be applied. -/
inductive Error where
  /-- No open style has the name. -/
  | unmatched (body : List Char) (position : Nat)
  /-- No style is open. -/
  | nothingOpen (position : Nat)
  /-- The action that is closed has no proper parameters. -/
  | action (e : Action.Error)
  /-- The name of a style holds a color whose part is no number. -/
  | color (part : String) (e : Number.IntError)
  deriving DecidableEq

/-- The text of the error. -/
def Error.message : Error → String
  | unmatched body position =>
    "closing tag '" ++ String.ofList (bracketed body) ++ "' at position " ++ toString position
      ++ " doesn't match any open tag"
  | nothingOpen position =>
    "closing tag '[/]' at position " ++ toString position ++ " has nothing to close"
  | action e => e.message
  | color part e => e.message (Text.ofString part)

/-- An open style: its canonical name, and its parameters, which are empty if it has none. -/
structure OpenStyle where
  name : String
  parameters : List Char

/-- The canonical name of a style. -/
def styleName (cs : List Char) : Except Error String :=
  match Terminal.canonicalName cs with
  | .ok name => .ok name
  | .error (part, e) => .error (.color part e)

/-- Close a style. The parameters of an action are checked here. -/
def closeStyle (s : OpenStyle) : Except Error Unit :=
  if s.name.startsWith "@" && !s.parameters.isEmpty then
    match Action.check s.parameters with
    | .ok _ => .ok ()
    | .error e => .error (.action e)
  else .ok ()

/-- The styles that are open after a tag, the latest first. A style may be closed while later ones are
open, and these stay open. -/
def applyTag (position : Nat) (styles : List OpenStyle) (body : List Char) :
    Except Error (List OpenStyle) := do
  let parameters := (body.dropWhile (· != '=')).drop 1
  match body.takeWhile (· != '=') with
  | '/' :: name =>
    if name.all Text.isBlank then match styles with
      | [] => .error (.nothingOpen position)
      | s :: rest =>
        closeStyle s
        return rest
    else
      let name ← styleName name
      match styles.find? (·.name == name) with
      | none => .error (.unmatched body position)
      | some s =>
        closeStyle s
        return styles.eraseP (·.name == name)
  | name => return ⟨← styleName name, parameters⟩ :: styles

/-- The text of pieces from a position on, with the styles that are open there. Among characters, a
backslash before an opening bracket is dropped: the renderer does so with any text between two tags,
although only a backslash before a tag was put there by `escape`. Styles that are still open at the end
are closed without an error. -/
def renderFrom (position : Nat) (styles : List OpenStyle) :
    List Piece → Except Error (List Char)
  | [] => .ok []
  | .char c :: rest =>
    (renderFrom (position + 1) styles rest).map fun text =>
      if c = '\\' ∧ rest.head? = some (.char '[') then text else c :: text
  | .tag slashes body :: rest =>
    let slashText := List.replicate (slashes / 2) '\\'
    let next := position + slashes + body.length + 2
    if slashes % 2 = 1 then
      (renderFrom next styles rest).map (slashText ++ bracketed body ++ ·)
    else match applyTag (position + slashes) styles body with
      | .ok styles => (renderFrom next styles rest).map (slashText ++ ·)
      | .error e => .error e

/-- The text of markup. -/
def render (markup : List Char) : Except Error (List Char) := renderFrom 0 [] (pieces markup)

end SinkAudit.Markup
