import IacLint.Number.Format

/-!
# Conversions of doubles by precision

The digit layouts that formatted output asks for by a precision, for a finite value
without its sign:

* *fixed*: the value rounded to `p` places after the point (`2.500000`, `0.12`);
* *scientific*: `p + 1` significant digits and an exponent (`2.500000e+00`);
* *shortest of the two* (`%g`): `p` significant digits in the layout the exponent
  calls for, trailing zeros dropped unless asked to keep them;
* *hexadecimal*: the significand in hexadecimal and a binary exponent (`0x1.4p+1`).

Rounding is to the nearest, halves to even, on the exact binary value, so `0.125`
to two places is `0.12` and `2.5` to none is `2`.

## Main definitions

* `Binary.fixedText`, `Binary.scientificText`, `Binary.generalFormText`,
  `Binary.hexText`
-/

namespace IacLint.Number

namespace Binary

/-- The value as a fraction of naturals: numerator and denominator. -/
def fraction (b : Binary) : Nat × Nat :=
  if b.q ≥ 0 then (b.m * Nat.pow 2 b.q.toNat, 1) else (b.m, Nat.pow 2 (-b.q).toNat)

/-- The digits of `n`, at least `width` of them, zeros in front. -/
def padDigits (n width : Nat) : String :=
  let ds := natDigits n
  String.ofList (List.replicate (width - ds.length) '0') ++ ds

/-- The value rounded to `p` places after the point; `point` keeps the point when no
place follows it. -/
def fixedText (b : Binary) (p : Nat) (point : Bool) : String :=
  let (num, den) := b.fraction
  let scaled := roundDivEven (num * Nat.pow 10 p) den
  let whole := scaled / Nat.pow 10 p
  let frac := scaled % Nat.pow 10 p
  natDigits whole ++ (if p = 0 then (if point then "." else "") else "." ++ padDigits frac p)

/-- The first digit's power of ten after rounding to `p + 1` significant digits, and
those digits as a natural (zero for the zero value). -/
def scientificParts (b : Binary) (p : Nat) : Nat × Int :=
  if b.m = 0 then (0, 0)
  else
    let d := b.roundTo (p + 1)
    let ds := d.digits.toList
    let n := (String.ofList (ds ++ List.replicate (p + 1 - ds.length) '0')).toNat!
    (n, d.point - 1)

/-- The value in scientific layout with `p` places after the point; `upper` writes
`E`, and `point` keeps the point when no place follows it. -/
def scientificText (b : Binary) (p : Nat) (upper point : Bool) : String :=
  let (n, x) := b.scientificParts p
  let ds := padDigits n (p + 1)
  let mant := match ds.toList with
    | c :: rest => if p = 0 then String.ofList [c] ++ (if point then "." else "")
      else String.ofList (c :: '.' :: rest)
    | [] => "0"
  let e := exponentText x
  mant ++ (if upper then e.toUpper else e)

/-- Drops the zeros at the end of the places after a point, and the point when no
place is left. -/
def dropTrailingZeros (s : String) : String :=
  if s.toList.contains '.' then
    let cs := (s.toList.reverse.dropWhile (· = '0')).reverse
    String.ofList (if cs.getLast? = some '.' then cs.dropLast else cs)
  else s

/-- The shortest-of-two layout with `p` significant digits (`0` counts as `1`): fixed
when the exponent `x` of the rounded value has `-4 ≤ x < p`, scientific otherwise.
Unless `keep`, trailing zeros are dropped. -/
def generalFormText (b : Binary) (p : Nat) (upper keep : Bool) : String :=
  let p := if p = 0 then 1 else p
  let (_, x) := b.scientificParts (p - 1)
  if x < p && x ≥ -4 then
    let s := b.fixedText (p - 1 - x).toNat keep
    if keep then s else dropTrailingZeros s
  else
    let s := b.scientificText (p - 1) upper keep
    if keep then s
    else
      -- the zeros to drop stand before the exponent
      let cs := s.toList
      let mant := cs.takeWhile fun c => c ≠ 'e' && c ≠ 'E'
      dropTrailingZeros (String.ofList mant) ++ String.ofList (cs.drop mant.length)

/-- The hexadecimal digits of `n`, `upper` in capitals. -/
def hexDigitsOf (n : Nat) (upper : Bool) : String :=
  let s := String.ofList (Nat.toDigits 16 n)
  if upper then s.toUpper else s

/-- The value in hexadecimal layout: `0x1.8p+0`, with `p` hexadecimal places when
given (rounded halves to even) and as few as the value needs otherwise. -/
def hexText (b : Binary) (p : Option Nat) (upper : Bool) : String :=
  let (lead, frac, e) : Nat × Nat × Int :=
    if b.m = 0 then (0, 0, 0)
    else if b.m ≥ Nat.pow 2 52 then (1, b.m - Nat.pow 2 52, b.q + 52)
    else (0, b.m, -1022)
  -- `frac` has 52 bits, 13 hexadecimal places
  let (lead, places) := match p with
    | some k =>
      if k ≥ 13 then (lead, padDigitsHex (frac * Nat.pow 16 (k - 13)) k)
      else
        let r := roundDivEven frac (Nat.pow 16 (13 - k))
        if r ≥ Nat.pow 16 k then (lead + 1, padDigitsHex (r - Nat.pow 16 k) k) else (lead, padDigitsHex r k)
    | none =>
      let s := padDigitsHex frac 13
      (lead, String.ofList (s.toList.reverse.dropWhile (· = '0')).reverse)
  let body := "0x" ++ toString lead ++ (if places.isEmpty then "" else "." ++ places) ++ "p" ++
    (if e ≥ 0 then "+" else "-") ++ toString e.natAbs
  if upper then body.toUpper else body
where
  /-- Hexadecimal digits of `n`, at least `width` of them. -/
  padDigitsHex (n width : Nat) : String :=
    let ds := Nat.toDigits 16 n
    String.ofList (List.replicate (width - ds.length) '0' ++ ds)

end Binary

end IacLint.Number
