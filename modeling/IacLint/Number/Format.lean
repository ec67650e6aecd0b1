import IacLint.Number.Decimal

/-!
# Written forms of floating-point values

Two written forms of a double, each a choice of digits and a layout:

* the *exact form* writes the shortest digits that read back as the value; it is
  positional when the point lies between 4 places before the first digit and 16
  places after it, and keeps at least one digit after the point (`1.0`, `0.0001`,
  `1e-05`, `1e+16`);
* the *general form* writes six significant digits, rounded halves to even, drops
  trailing zeros and the point they leave, and is positional when the exponent of the
  first digit lies between -4 and 5 (`0.3`, `10`, `1e-05`, `1.23457e+08`).

Both write an exponent with a sign and at least two digits, `inf`, `-inf` and `nan`
for the values that are not finite, and a minus sign for negative zero.

## Main definitions

* `exponentText` — `e+07`, `e-05`
* `Float.exactText` — the exact form
* `Float.generalText` — the general form
-/

namespace IacLint.Number

/-- The exponent part: `e`, a sign, and at least two digits. -/
def exponentText (x : Int) : String :=
  let ds := natDigits x.natAbs
  "e" ++ (if x < 0 then "-" else "+") ++ (if ds.length < 2 then "0" ++ ds else ds)

/-- Digits `d₁d₂…` in scientific layout `d₁.d₂…e±xx`; a single digit stands alone. -/
def scientific (d : Decimal) : String :=
  let cs := d.digits.toList
  let mant := match cs with
    | c :: rest@(_ :: _) => String.ofList (c :: '.' :: rest)
    | _ => d.digits
  mant ++ exponentText (d.point - 1)

/-- Digits in positional layout; `keepPoint` writes `.0` after a whole number. -/
def positional (d : Decimal) (keepPoint : Bool) : String :=
  let n := d.digits.length
  if d.point ≤ 0 then "0." ++ String.ofList (List.replicate (-d.point).toNat '0') ++ d.digits
  else if d.point.toNat ≥ n then
    d.digits ++ String.ofList (List.replicate (d.point.toNat - n) '0') ++
      (if keepPoint then ".0" else "")
  else
    String.ofList (d.digits.toList.take d.point.toNat) ++ "." ++
      String.ofList (d.digits.toList.drop d.point.toNat)

/-- The text of a value that is not finite, or of a finite one laid out by `finite`. -/
def Float.withSign (x : Float) (finite : Binary → String) : String :=
  match classify x with
  | .nan => "nan"
  | .inf neg => if neg then "-inf" else "inf"
  | .finite b => (if b.neg then "-" else "") ++ finite b

/-- The exact form: the shortest digits that read back as the value. -/
def Float.exactText (x : Float) : String :=
  Float.withSign x fun b =>
    let d := b.shortest
    if d.point ≤ -4 ∨ d.point > 16 then scientific d else positional d true

/-- The general form: six significant digits, trailing zeros dropped. -/
def Float.generalText (x : Float) : String :=
  Float.withSign x fun b =>
    let d := b.roundTo 6
    if d.digits = "0" then "0"
    else if d.point - 1 < -4 ∨ d.point - 1 ≥ 6 then scientific d
    else positional d false

end IacLint.Number
