/-!
# Lone surrogates

Text read from JSON or from escapes in YAML may hold a *lone surrogate*: a code unit
from `U+D800` to `U+DFFF` that is not half of a pair. Such a code point is no character,
so it cannot stand in a `String`; it is kept instead as a stand-in, the private-use
character `0xF0000` above it (`U+FD800` to `U+FDFFF`). A stand-in behaves as a lone
surrogate does wherever text is only compared, searched or cut: it is no letter, digit,
blank or printable character, and has no case. Where text is written out, as an escape
in JSON or in a quoted form, the surrogate itself is written.

## Main definitions

* `standIn` — the stand-in of a surrogate code unit
* `surrogateOf?` — the surrogate code unit a character stands in for
-/

namespace IacLint.Text

/-- How far above its surrogate a stand-in lies. -/
def standInOffset : Nat := 0xF0000

/-- The stand-in of a surrogate code unit `u` (from `0xD800` to `0xDFFF`). -/
def standIn (u : Nat) : Char := Char.ofNat (u + standInOffset)

/-- The surrogate code unit that `c` stands in for, if it is a stand-in. -/
def surrogateOf? (c : Char) : Option Nat :=
  if 0xD800 + standInOffset ≤ c.toNat ∧ c.toNat ≤ 0xDFFF + standInOffset then
    some (c.toNat - standInOffset)
  else none

/-- Whether a character stands in for a lone surrogate. -/
def isStandIn (c : Char) : Bool := (surrogateOf? c).isSome

end IacLint.Text
