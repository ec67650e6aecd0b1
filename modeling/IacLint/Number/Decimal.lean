/-!
# Decimal digits of binary floating-point values

A finite double is `m · 2^q` for a natural significand `m`. This file finds decimal
digits for it in exact natural-number arithmetic:

* the shortest digits: the fewest significant digits `d` with `d · 10^e` inside the
  interval of reals that round to the value (its ends included when `m` is even), and
  of those the nearest to the value;
* the digits rounded to a fixed number of significant places, halves to even.

Both give a `Decimal`: a digit string and the position of the decimal point.

## Main definitions

* `Binary`, `FloatClass`, `classify` — the parts of a double
* `Decimal` — significant digits and point position
* `Binary.shortest` — the shortest digits that read back as the value
* `Binary.roundTo` — the digits rounded to a number of significant places
-/

namespace IacLint.Number

/-- A finite double as sign, significand and binary exponent: `±m · 2^q`. -/
structure Binary where
  /-- Whether the sign bit is set. -/
  neg : Bool
  /-- The integer significand. -/
  m : Nat
  /-- The power of two the significand is scaled by. -/
  q : Int
  deriving Repr

/-- A double is not a number, an infinity, or finite. -/
inductive FloatClass where
  | nan
  | inf (neg : Bool)
  | finite (b : Binary)

/-- Takes a double apart into sign, exponent field and fraction field. -/
def classify (x : Float) : FloatClass :=
  let bits := x.toBits.toNat
  let neg := bits / Nat.pow 2 63 % 2 = 1
  let e : Nat := bits / Nat.pow 2 52 % Nat.pow 2 11
  let f : Nat := bits % Nat.pow 2 52
  if e = Nat.pow 2 11 - 1 then (if f = 0 then .inf neg else .nan)
  else if e = 0 then .finite ⟨neg, f, -1074⟩
  else .finite ⟨neg, f + Nat.pow 2 52, (e : Int) - 1075⟩

/-- Significant digits `digits` with the decimal point `point` places after the first
digit's left side: the value is `0.digits · 10^point`. -/
structure Decimal where
  /-- The significant digits, without trailing zeros (the zero value is `"0"`). -/
  digits : String
  /-- Where the decimal point stands relative to the first digit. -/
  point : Int
  deriving Repr, BEq

/-- The decimal digits of `n`. -/
def natDigits (n : Nat) : String := String.ofList (Nat.toDigits 10 n)

/-- `n / b` rounded to the nearest integer, halves to the even neighbour. -/
def roundDivEven (n b : Nat) : Nat :=
  let c := n / b
  let r := n % b
  if 2 * r < b then c
  else if 2 * r > b then c + 1
  else if c % 2 = 0 then c else c + 1

/-- The decimal built from an integer `c` placed so that its last digit has weight
`10^e`, with trailing zeros moved into the exponent. -/
def Decimal.ofScaled (c : Nat) (e : Int) : Decimal :=
  let rec strip (fuel c : Nat) (e : Int) : Nat × Int :=
    match fuel with
    | 0 => (c, e)
    | fuel + 1 => if c ≠ 0 ∧ c % 10 = 0 then strip fuel (c / 10) (e + 1) else (c, e)
  let (c, e) := strip 400 c e
  let ds := natDigits c
  ⟨ds, e + ds.length⟩

namespace Binary

/-- The value, its upper and lower rounding bounds, as numerators over one
denominator: `(value, high, low, denominator)`, each bound half a gap away (a quarter
gap below a power of two that is not the smallest normal). -/
def scaled (b : Binary) : Nat × Nat × Nat × Nat :=
  let boundary := b.m = Nat.pow 2 52 ∧ b.q > -1074
  let (s, den) := if b.q ≥ 0 then (Nat.pow 2 b.q.toNat, 4) else (1, 4 * Nat.pow 2 (-b.q).toNat)
  (4 * b.m * s, (4 * b.m + 2) * s, (4 * b.m - (if boundary then 1 else 2)) * s, den)

/-- `⌊log₁₀ (n / den)⌋` for `n > 0`: the power of ten of the leading digit. -/
def leadPower (n den : Nat) : Int :=
  if n ≥ den then ((natDigits (n / den)).length : Int) - 1
  else
    let rec up (fuel t : Nat) : Int :=
      match fuel with
      | 0 => -(t : Int)
      | fuel + 1 => if n * Nat.pow 10 t ≥ den then -(t : Int) else up fuel (t + 1)
    up 400 1

/-- The fraction `x / 10^e` where `x` is a numerator over `den`, as a pair
numerator, denominator. -/
def onGrid (x den : Nat) (e : Int) : Nat × Nat :=
  if e ≥ 0 then (x, den * Nat.pow 10 e.toNat) else (x * Nat.pow 10 (-e).toNat, den)

/-- On the grid `10^e`: of the integers whose multiple lies within the rounding
interval, the one nearest the value, if there is any. -/
def gridHit? (b : Binary) (e : Int) : Option Nat :=
  let (v, h, l, den) := b.scaled
  let inclusive := b.m % 2 = 0
  let (ln, ld) := onGrid l den e
  let (hn, hd) := onGrid h den e
  let (vn, vd) := onGrid v den e
  let lo := if inclusive then (ln + ld - 1) / ld else ln / ld + 1
  let hi := if inclusive then hn / hd else (if hn % hd = 0 then hn / hd - 1 else hn / hd)
  if lo ≤ hi then
    let c := roundDivEven vn vd
    some (if c < lo then lo else if c > hi then hi else c)
  else none

/-- The shortest digits of a positive finite value: for 1, 2, … 17 significant digits
the first grid that has an integer inside the rounding interval. -/
def shortest (b : Binary) : Decimal :=
  if b.m = 0 then ⟨"0", 1⟩
  else
    let (v, _, _, den) := b.scaled
    let p := leadPower v den
    let rec go (fuel : Nat) (k : Nat) : Decimal :=
      match fuel with
      | 0 => ⟨"0", 1⟩
      | fuel + 1 =>
        let e := p - k + 1
        match b.gridHit? e with
        | some c => Decimal.ofScaled c e
        | none => go fuel (k + 1)
    go 17 1

/-- The digits of a positive finite value rounded to `n` significant places, halves
to even. -/
def roundTo (b : Binary) (n : Nat) : Decimal :=
  if b.m = 0 then ⟨"0", 1⟩
  else
    let (v, _, _, den) := b.scaled
    let p := leadPower v den
    let e := p - n + 1
    let (vn, vd) := onGrid v den e
    Decimal.ofScaled (roundDivEven vn vd) e

end Binary

end IacLint.Number
