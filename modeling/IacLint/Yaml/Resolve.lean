import IacLint.Text.Pattern

/-!
# Tags of plain scalars

A plain scalar without a tag gets its tag from its text, by the rules of YAML 1.1: the
rules are tried in a fixed order, and only the rules that can match a text starting
with its first character are tried at all. Truth values are the words `yes`, `no`,
`true`, `false`, `on`, `off` in three spellings each; integers may be binary (`0b`),
octal (a leading `0`), decimal, hexadecimal (`0x`) or base 60 (`1:30`); floating point
numbers need a point (so `1e3` is text), and may be base 60 too; `~`, `null` and the
empty text are null; `<<` is the merge key, `=` the value key; dates are `YYYY-MM-DD`
and points in time add a time and an optional zone. Low lines may stand among the
digits of numbers.

A text matches a rule when the rule's pattern matches all of it, or all of it but a
final line break.

## Main definitions

* `Rule` — a rule: its tag and pattern
* `rulesFor` — the rules tried for a text, in order
* `resolveScalar` — the tag of a scalar from its text
-/

namespace IacLint.Yaml

open IacLint.Text Pattern

/-- The tag of a name of the YAML 1.1 types. -/
def coreTag (name : String) : String := "tag:yaml.org,2002:" ++ name

/-- An optional sign. -/
def sign : Pattern := opt (oneOf "-+")

/-- Digits and low lines. -/
def digitsOrLowLines : Pattern := .many (oneOf "0123456789_")

/-- An exponent with a sign, as floating point numbers write it. -/
def exponent : Pattern := chain [oneOf "eE", oneOf "-+", oneOrMore digit]

/-- A base-60 digit group `:[0-5]?[0-9]`. -/
def sexagesimalGroup : Pattern := chain [char ':', opt (oneOf "012345"), digit]

/-- The truth value words. -/
def boolPattern : Pattern :=
  choice (["yes", "Yes", "YES", "no", "No", "NO", "true", "True", "TRUE", "false", "False",
    "FALSE", "on", "On", "ON", "off", "Off", "OFF"].map lit)

/-- Floating point numbers. -/
def floatPattern : Pattern :=
  choice [
    chain [sign, digit, digitsOrLowLines, char '.', digitsOrLowLines, opt exponent],
    chain [char '.', digit, digitsOrLowLines, opt exponent],
    chain [sign, digit, digitsOrLowLines, oneOrMore sexagesimalGroup, char '.', digitsOrLowLines],
    chain [sign, char '.', choice [lit "inf", lit "Inf", lit "INF"]],
    chain [char '.', choice [lit "nan", lit "NaN", lit "NAN"]]]

/-- Integers. -/
def intPattern : Pattern :=
  choice [
    chain [sign, lit "0b", oneOrMore (oneOf "01_")],
    chain [sign, char '0', oneOrMore (oneOf "01234567_")],
    chain [sign, choice [char '0', chain [oneOf "123456789", digitsOrLowLines]]],
    chain [sign, lit "0x", oneOrMore (oneOf "0123456789abcdefABCDEF_")],
    chain [sign, oneOf "123456789", digitsOrLowLines, oneOrMore sexagesimalGroup]]

/-- The merge key. -/
def mergePattern : Pattern := lit "<<"

/-- Null. -/
def nullPattern : Pattern := choice [char '~', lit "null", lit "Null", lit "NULL", .empty]

/-- A time zone: `Z`, or a signed hour with optional minutes. -/
def zonePattern : Pattern :=
  choice [char 'Z', chain [oneOf "-+", digit, opt digit, opt (chain [char ':', digit, digit])]]

/-- Dates, and points in time. -/
def timestampPattern : Pattern :=
  choice [
    chain [digit, digit, digit, digit, char '-', digit, digit, char '-', digit, digit],
    chain [digit, digit, digit, digit, char '-', digit, opt digit, char '-', digit, opt digit,
      choice [oneOf "Tt", oneOrMore (oneOf " \t")],
      digit, opt digit, char ':', digit, digit, char ':', digit, digit,
      opt (chain [char '.', .many digit]),
      opt (chain [.many (oneOf " \t"), zonePattern])]]

/-- The value key. -/
def valuePattern : Pattern := char '='

/-- The indicator characters on their own. -/
def indicatorPattern : Pattern := choice [char '!', char '&', char '*']

/-- A rule of implicit tags: the tag, the pattern, and the first characters of the texts
it may match (`none` for the empty text). -/
structure Rule where
  tag : String
  pattern : Pattern
  firsts : List (Option Char)

/-- The rules, in the order they are tried. -/
def rules : List Rule :=
  let cs (s : String) : List (Option Char) := s.toList.map Option.some
  [⟨coreTag "bool", boolPattern, cs "yYnNtTfFoO"⟩,
   ⟨coreTag "float", floatPattern, cs "-+0123456789."⟩,
   ⟨coreTag "int", intPattern, cs "-+0123456789"⟩,
   ⟨coreTag "merge", mergePattern, cs "<"⟩,
   ⟨coreTag "null", nullPattern, cs "~nN" ++ [none]⟩,
   ⟨coreTag "timestamp", timestampPattern, cs "0123456789"⟩,
   ⟨coreTag "value", valuePattern, cs "="⟩,
   ⟨coreTag "yaml", indicatorPattern, cs "!&*"⟩]

/-- The rules tried for a text: those listed for its first character. -/
def rulesFor (value : String) : List Rule :=
  rules.filter fun r => r.firsts.contains value.toList.head?

/-- The tag of a scalar: when the tag may come from a plain text (`implicit.1`), the
first rule that matches; otherwise, and when none matches, text. -/
def resolveScalar (value : String) (implicit : Bool × Bool) : String :=
  if implicit.1 then
    match (rulesFor value).find? fun r => r.pattern.fullMatches value with
    | some r => r.tag
    | none => coreTag "str"
  else coreTag "str"

end IacLint.Yaml
