import IacLint.Yaml.Construct

/-!
# Loading the first document of a YAML text

A text is loaded in stages: every character must be one YAML allows (tabs, line
breaks, printable ASCII, `U+0085`, and the rest of Unicode but surrogates, `U+FFFE`
and `U+FFFF`, a stand-in for a lone surrogate counting as the surrogate); then the first document is parsed to a node graph, its untagged plain
scalars tagged by `resolveScalar`, and the graph constructed to a value. Later
documents are not read further than the parser needs to find the first one's end.

A text without documents loads as nothing. Syntax and construction failures are
`LoadError.invalid`; failures of the number, truth and date readers are raised with
their own kind and message.

## Main definitions

* `isYamlChar` — the characters a YAML text may hold
* `loadFirst` — the value of the first document of a text
-/

namespace IacLint.Yaml

open IacLint.Data

/-- Whether a character may appear in a YAML text. -/
def isYamlChar (c : Char) : Bool :=
  let n := c.toNat
  n = 0x09 || n = 0x0A || n = 0x0D || (0x20 ≤ n && n ≤ 0x7E) || n = 0x85 ||
    (0xA0 ≤ n && n ≤ 0xD7FF) || (0xE000 ≤ n && n ≤ 0xFFFD) || (0x10000 ≤ n && !Text.isStandIn c)

/-- The value of the first document of a text, or `none` when it has no document. -/
def loadFirst (text : String) : Except LoadError (Option Value) := do
  if !text.toList.all isYamlChar then throw .invalid
  match ← composeFirst resolveScalar text with
  | none => return none
  | some (nodes, root) => return some (← constructDocument nodes root)

end IacLint.Yaml
