import IacLint.Text.Printable
import IacLint.Text.Surrogate

/-!
# Quoted text

The quoted form in which messages show a text: the text between quotes, with the
characters that cannot stand for themselves written as escapes. The quote is the
apostrophe, unless the text holds an apostrophe and no double quote; then it is the
double quote.

## Main definitions

* `hexPad` — lower-case hexadecimal digits padded with zeros
* `escapeChar` — the written form of one character inside the quotes
* `quote` — the quoted form of a text
-/

namespace IacLint.Text

/-- The lower-case hexadecimal digits of `n`, padded with zeros to `width`. -/
def hexPad (width n : Nat) : String :=
  let ds := Nat.toDigits 16 n
  String.ofList (List.replicate (width - ds.length) '0' ++ ds)

/-- The written form of `c` inside quotes `q`: the quote and the backslash get a
backslash, tab, line feed and carriage return their letter escapes, other characters
that are not printable a hexadecimal escape of two, four or eight digits; a stand-in for
a lone surrogate is written as the surrogate's four-digit escape. -/
def escapeChar (q c : Char) : List Char :=
  if c = q ∨ c = '\\' then ['\\', c]
  else if c = '\t' then ['\\', 't']
  else if c = '\n' then ['\\', 'n']
  else if c = '\r' then ['\\', 'r']
  else if let some u := surrogateOf? c then ('\\' :: 'u' :: (hexPad 4 u).toList)
  else if isPrintable c then [c]
  else if c.toNat < 0x100 then ('\\' :: 'x' :: (hexPad 2 c.toNat).toList)
  else if c.toNat < 0x10000 then ('\\' :: 'u' :: (hexPad 4 c.toNat).toList)
  else ('\\' :: 'U' :: (hexPad 8 c.toNat).toList)

/-- The quote a text is written between. -/
def quoteChar (s : String) : Char :=
  if s.toList.contains '\'' && !s.toList.contains '"' then '"' else '\''

/-- The quoted form of a text. -/
def quote (s : String) : String :=
  let q := quoteChar s
  String.ofList (q :: s.toList.flatMap (escapeChar q) ++ [q])

end IacLint.Text
