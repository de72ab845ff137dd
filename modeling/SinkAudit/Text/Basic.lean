/-!
# Text of a configuration document

A document may spell half of a surrogate pair on its own (`"\ud83d"`), which a `String` cannot hold.
Values of documents are therefore lists of code points, up to the point where they are accepted: a text
with a lone surrogate is no valid value of any field, and what is accepted is a `String` again. File
names, arguments and variables of the environment are strings throughout; a surrogate in one of those is
outside of this development.

- `CodePoint`: a Unicode scalar value, or a surrogate standing alone.
- `Text`: a list of code points, with `Text.ofString` embedding strings.
- `Text.toString?`: the string a text denotes, if it holds no lone surrogate; it undoes `Text.ofString`.
- `Text.joinPairs`: text in which adjacent surrogate halves are joined.
- `Text.inRanges`: a property of code points that is kept as closed ranges, as those of Unicode are.
-/

namespace SinkAudit

/-- A Unicode code point: a scalar value, or half of a surrogate pair standing alone. -/
inductive CodePoint where
  | scalar (c : Char)
  | surrogate (offset : Fin 0x800)
  deriving DecidableEq

namespace CodePoint

/-- The number of a code point. -/
def toNat : CodePoint → Nat
  | scalar c => c.toNat
  | surrogate k => 0xD800 + k.val

/-- The code point with a given number, if the number is small enough to have one. -/
def ofNat? (n : Nat) : Option CodePoint :=
  if h : n.isValidChar then some (scalar (Char.ofNatAux n h))
  else if h : 0xD800 ≤ n ∧ n < 0xE000 then some (surrogate ⟨n - 0xD800, by omega⟩)
  else none

/-- The character of a code point that is a scalar value. -/
def char? : CodePoint → Option Char
  | scalar c => some c
  | surrogate _ => none

/-- Does the code point satisfy a property of characters? A lone surrogate has none. -/
def satisfies (p : Char → Bool) : CodePoint → Bool
  | scalar c => p c
  | surrogate _ => false

end CodePoint

/-- Text in which surrogates may stand alone. -/
abbrev Text := List CodePoint

namespace Text

/-- The text of a string. -/
def ofString (s : String) : Text := s.toList.map CodePoint.scalar

instance : Coe String Text := ⟨ofString⟩

/-- The characters of a text without lone surrogates. -/
def chars? : Text → Option (List Char)
  | [] => some []
  | .scalar c :: rest => (chars? rest).map (c :: ·)
  | .surrogate _ :: _ => none

/-- The string a text denotes, if it holds no lone surrogate. -/
def toString? (t : Text) : Option String := (chars? t).map String.ofList

@[simp] theorem chars?_map_scalar (cs : List Char) :
    chars? (cs.map CodePoint.scalar) = some cs := by
  induction cs with
  | nil => rfl
  | cons c cs ih => simp [chars?, ih]

@[simp] theorem toString?_ofString (s : String) : toString? (ofString s) = some s := by
  simp [toString?, ofString]

theorem chars?_eq_some_iff {t : Text} {cs : List Char} :
    t.chars? = some cs ↔ t = cs.map CodePoint.scalar := by
  constructor
  · intro h
    induction t generalizing cs with
    | nil =>
      cases h
      rfl
    | cons c rest ih =>
      cases c with
      | surrogate k => cases h
      | scalar c =>
        obtain ⟨cs', hrest, rfl⟩ := Option.map_eq_some_iff.mp h
        rw [ih hrest, List.map_cons]
  · rintro rfl
    exact chars?_map_scalar cs

/-- A text that a string denotes is the text of the string. -/
theorem toString?_eq_some_iff {t : Text} {s : String} : t.toString? = some s ↔ t = ofString s := by
  constructor
  · intro h
    obtain ⟨cs, hcs, rfl⟩ := Option.map_eq_some_iff.mp h
    rw [chars?_eq_some_iff.mp hcs, ofString, String.toList_ofList]
  · rintro rfl
    exact toString?_ofString s

theorem ofString_injective : Function.Injective ofString := by
  intro a b h
  have hstring := toString?_eq_some_iff.mpr h
  rw [toString?_ofString] at hstring
  cases hstring
  rfl

/-- Is the text exactly this string? -/
def isString (t : Text) (s : String) : Bool := t == ofString s

/-- Join adjacent surrogate halves into the character they encode; every other one stays alone. -/
def joinPairs : Text → Text
  | .surrogate hi :: .surrogate lo :: rest =>
    if hi.val < 0x400 ∧ 0x400 ≤ lo.val then
      .scalar (Char.ofNat (0x10000 + hi.val * 0x400 + (lo.val - 0x400))) :: joinPairs rest
    else .surrogate hi :: joinPairs (.surrogate lo :: rest)
  | c :: rest => c :: joinPairs rest
  | [] => []

/-- Texts with a separator between neighbours. -/
def join (separator : Text) : List Text → Text
  | [] => []
  | [t] => t
  | t :: rest => t ++ separator ++ join separator rest

/-- Does one of the closed ranges hold the number? The ranges of a property stand in increasing order. -/
def inRanges (ranges : List (Nat × Nat)) (n : Nat) : Bool :=
  ranges.any fun (first, last) => first ≤ n && n ≤ last

end Text

end SinkAudit
