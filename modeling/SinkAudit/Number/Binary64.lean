/-!
# Floating-point numbers, exactly

Documents hold floating-point numbers, and their values are compared, read as flags and written out.
All of it is exact arithmetic on the number that a float stands for, so none of it may go through
operations that round. `Float` itself is opaque to proofs; what is needed of it is gathered here, in terms
of its bits.

- `Magnitude`: what a binary64 number is apart from its sign: `m · 2^q`, infinite, or no number.
- `magnitude`, `isNegative`: the parts of a `Float`.
- `equalsInt`: is a float exactly this integer?
- `whole?`: the integer that a float exactly is, with `equalsInt_iff`.
- `nearestFraction`, `nearest`: the float nearest to a fraction, and to a decimal.
-/

namespace SinkAudit.Binary64

/-- A binary64 number without its sign. -/
inductive Magnitude where
  /-- `m · 2 ^ q`. -/
  | finite (m : Nat) (q : Int)
  | infinite
  | notANumber

/-- The magnitude of a float, read off its bits. -/
def magnitude (x : Float) : Magnitude :=
  let bits := x.toBits.toNat
  let exponent : Nat := bits / Nat.pow 2 52 % Nat.pow 2 11
  let fraction : Nat := bits % Nat.pow 2 52
  if exponent = Nat.pow 2 11 - 1 then if fraction = 0 then .infinite else .notANumber
  else if exponent = 0 then .finite fraction (-1074)
  else .finite (Nat.pow 2 52 + fraction) ((exponent : Int) - 1075)

/-- Is the sign bit set? -/
def isNegative (x : Float) : Bool := x.toBits.toNat / Nat.pow 2 63 == 1

/-- Is the float exactly this integer? -/
def equalsInt (x : Float) (n : Int) : Bool :=
  match magnitude x with
  | .finite m q =>
    let scaled := m * Nat.pow 2 q.toNat
    let signed : Int := if isNegative x then -scaled else scaled
    signed == n * Nat.pow 2 (-q).toNat
  | _ => false

/-- The integer that a float exactly is. Infinities, what is no number, and floats with a fraction are
none. -/
def whole? (x : Float) : Option Int :=
  match magnitude x with
  | .finite m q =>
    let scaled := m * Nat.pow 2 q.toNat
    let signed : Int := if isNegative x then -scaled else scaled
    let unit : Int := Nat.pow 2 (-q).toNat
    if signed % unit = 0 then some (signed / unit) else none
  | _ => none

theorem equalsInt_iff {x : Float} {n : Int} : equalsInt x n = true ↔ whole? x = some n := by
  unfold equalsInt whole?
  cases magnitude x with
  | infinite => simp
  | notANumber => simp
  | finite m q =>
    have hunit : ((Nat.pow 2 (-q).toNat : Nat) : Int) ≠ 0 :=
      Int.natCast_ne_zero.mpr (Nat.ne_of_gt (Nat.pow_pos Nat.zero_lt_two))
    simp only [beq_iff_eq, Option.ite_none_right_eq_some, Option.some.injEq]
    constructor
    · intro h
      rw [h]
      exact ⟨Int.mul_emod_left .., Int.mul_ediv_cancel _ hunit⟩
    · rintro ⟨hdvd, rfl⟩
      exact (Int.ediv_mul_cancel_of_emod_eq_zero hdvd).symm

/-- A quotient rounded to a whole number, a half going to the even neighbour. -/
def roundQuotient (num den : Nat) : Nat :=
  let whole := num / den
  let twice := 2 * (num % den)
  if twice < den ∨ (twice = den ∧ whole % 2 = 0) then whole else whole + 1

/-- The bits of infinity: no fraction, and the largest exponent field. -/
def infinityBits : Nat := 2047 * Nat.pow 2 52

/-- The float nearest to a positive fraction. Its last place is worth `2 ^ q`, with 53 places unless
that is too small; since the exponent field follows the fraction, a carry out of the fraction lands
in it. -/
def nearestFraction (num den : Nat) : Float :=
  let about : Int := (num.log2 : Int) - den.log2 - 52
  let scaled (q : Int) : Nat × Nat :=
    (num * Nat.pow 2 (-q).toNat, den * Nat.pow 2 q.toNat)
  let (n, d) := scaled about
  let q := max (-1074) (if n / d < Nat.pow 2 52 then about - 1 else about)
  let (n, d) := scaled q
  let bits := (q + 1074).toNat * Nat.pow 2 52 + roundQuotient n d
  Float.ofBits (min bits infinityBits).toUInt64

/-- The float nearest to `digits · 10 ^ exponent`, a half going to the even neighbour. Exponents far
outside the range of floats are cut off first, where the answer is infinite or zero. -/
def nearest (digits : Nat) (exponent : Int) : Float :=
  let size : Int := (Nat.toDigits 10 digits).length
  if digits = 0 ∨ size + exponent < -400 then Float.ofBits 0
  else if size + exponent > 400 then Float.ofBits infinityBits.toUInt64
  else nearestFraction (digits * Nat.pow 10 exponent.toNat) (Nat.pow 10 (-exponent).toNat)

/-- The float nearest to an integer. -/
def ofInt (n : Int) : Float :=
  if n < 0 then -(nearest n.natAbs 0) else nearest n.natAbs 0

end SinkAudit.Binary64
