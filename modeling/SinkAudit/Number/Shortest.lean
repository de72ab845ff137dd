import SinkAudit.Number.Binary64
import SinkAudit.Text.Digit

/-!
# The shortest decimal that reads back

What `str` and `repr` write for a float, which is how a float of a document reaches a message or is
compared with a text. A float stands for every real number nearer to it than to its neighbours. Among the
decimals in that interval the shortest is written, and of several that are as short the one nearest to the
float.

- `Decimal`: digits and the place of the point.
- `onGrid?`: the nearest of the float's two neighbours on the grid of `n` digits, if it reads back.
- `shortest`: the first grid that has one.
- `FloatForm`, `FloatForm.write`: the decisions of a written form, and the text they give.
- `plain`: positional from 10^-4 up to 10^16, with a point always, else with a signed exponent of
  two digits or more.
-/

namespace SinkAudit.Number

open Binary64

/-- The number `0.d₁d₂… · 10 ^ point`, digits most significant first. -/
structure Decimal where
  digits : List Char
  point : Int

/-- The interval around `m · 2 ^ q` that reads back as it, in quarters of `2 ^ q`: its lower end, the
number itself, and its upper end. Below a power of two the neighbours are twice as dense. -/
def quarters (m : Nat) (q : Int) : Nat × Nat × Nat :=
  (if m = Nat.pow 2 52 ∧ q > -1074 then 4 * m - 1 else 4 * m - 2, 4 * m, 4 * m + 2)

/-- How many digits the integer part of `m · 2 ^ q` has; zero or less counts zeros after the point. -/
def pointPlace (m : Nat) (q : Int) : Int :=
  let scaled := m * Nat.pow 10 400 * Nat.pow 2 q.toNat / Nat.pow 2 (-q).toNat
  (Nat.toDigits 10 scaled).length - 400

/-- The neighbour on the grid of `n` digits that reads back as `m · 2 ^ q`; of two the nearer, of two
as near the even one. -/
def onGrid? (m : Nat) (q point : Int) (n : Nat) : Option Nat :=
  let (low, value, high) := quarters m q
  let up := Nat.pow 2 (q - 2).toNat * Nat.pow 10 (n - point).toNat
  let down := Nat.pow 2 (2 - q).toNat * Nat.pow 10 (point - n).toNat
  -- the bounds of the interval belong to it if the significand is even
  let inside (c : Nat) : Bool :=
    if m % 2 = 0 then low * up ≤ c * down && c * down ≤ high * up
    else low * up < c * down && c * down < high * up
  let below := value * up / down
  let above := below + 1
  -- of two candidates the nearer one is taken, and of two as near the even one
  match inside below, inside above with
  | false, false => none
  | true, false => some below
  | false, true => some above
  | true, true =>
    let toBelow := value * up - below * down
    let toAbove := above * down - value * up
    if toBelow < toAbove ∨ (toBelow = toAbove ∧ below % 2 = 0) then some below else some above

/-- The first grid, from `n` digits on, that reads back. Seventeen digits always do. -/
def firstGrid (m : Nat) (q point : Int) (n : Nat) : Nat → Decimal
  | 0 => ⟨['0'], point⟩
  | fuel + 1 =>
    match onGrid? m q point n with
    | some c =>
      let ds := Nat.toDigits 10 c
      let kept := (ds.reverse.dropWhile (· == '0')).reverse
      ⟨kept, point + ((ds.length : Int) - n)⟩
    | none => firstGrid m q point (n + 1) fuel

/-- The shortest decimal that reads back as `m · 2 ^ q`. -/
def shortest (m : Nat) (q : Int) : Decimal :=
  if m = 0 then ⟨['0'], 1⟩ else firstGrid m q (pointPlace m q) 1 17

/-- How floats are written. -/
structure FloatForm where
  /-- The point stands after more than this many places … -/
  leastPoint : Int
  /-- … and after at most this many; other numbers get an exponent. -/
  mostPoint : Int
  infinite : String
  notANumber : String

/-- Digits with a point after the first `point` of them, zeros filling up; a whole number ends in
`.0`. -/
def positional (d : Decimal) : String :=
  if d.point ≤ 0 then
    "0." ++ String.ofList (List.replicate (-d.point).toNat '0' ++ d.digits)
  else
    let n := d.point.toNat
    let whole := d.digits.take n ++ List.replicate (n - d.digits.length) '0'
    let rest := d.digits.drop n
    String.ofList whole ++ "." ++ String.ofList (if rest.isEmpty then ['0'] else rest)

/-- One digit, a point if more follow, and a signed exponent of at least two digits. -/
def scientific (d : Decimal) : String :=
  let exponent := d.point - 1
  let mantissa := match d.digits with
    | [] => []
    | [x] => [x]
    | x :: rest => x :: '.' :: rest
  String.ofList mantissa ++ "e" ++ (if exponent < 0 then "-" else "+")
    ++ String.ofList (Text.digitsOf 10 2 exponent.natAbs)

/-- The text of a float in a form. -/
def FloatForm.write (form : FloatForm) (x : Float) : String :=
  let sign := if isNegative x then "-" else ""
  match magnitude x with
  | .notANumber => form.notANumber
  | .infinite => sign ++ form.infinite
  | .finite m q =>
    let d := shortest m q
    sign ++ if form.leastPoint < d.point ∧ d.point ≤ form.mostPoint then positional d
      else scientific d

/-- Positional from 10^-4 up to 10^16. -/
def plain : FloatForm := ⟨-4, 16, "inf", "nan"⟩

end SinkAudit.Number
