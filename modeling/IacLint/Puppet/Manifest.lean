import IacLint.Data.Value
import IacLint.Text.Blank

/-!
# Manifests

A manifest is checked as raw text: its path, its text, and its lines, which are the
pieces of the text between `\n` characters (so a text ending in `\n` has an empty last
line, and `\r` stays inside lines). A manifest has two attributes, `text` and `lines`.

## Main definitions

* `Manifest` — a manifest
* `Manifest.lines` — its lines
* `Manifest.get?` — an attribute by name
-/

namespace IacLint.Puppet

open IacLint.Data

/-- A manifest: the path it was read from and its text. -/
structure Manifest where
  path : String
  text : String
  deriving Inhabited

namespace Manifest

/-- The lines of a manifest: the pieces of its text between `\n` characters. -/
def lines (m : Manifest) : List String := Text.splitOnChar m.text '\n'

/-- The names of a manifest's attributes. -/
def attributeNames : List String := ["text", "lines"]

/-- The attribute of a name: the text, or the lines as a list. -/
def get? (m : Manifest) (name : String) : Option Value :=
  if name == "text" then some (.str m.text)
  else if name == "lines" then some (.list (m.lines.map .str))
  else none

end Manifest

end IacLint.Puppet
