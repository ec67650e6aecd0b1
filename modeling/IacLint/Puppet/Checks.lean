import IacLint.Puppet.Manifest
import IacLint.Lint.Output
import IacLint.Catalog
import IacLint.Scan
import IacLint.Text.Pattern
import IacLint.Text.Search
import IacLint.Text.Word
import IacLint.Text.Utf8

/-!
# Checks of manifests

Each manifest is checked, in this order, for deprecated resource types and for a class
declaration, a password written as a quoted literal, lines with trailing blanks, and
parameters that must not be used. Resource types and parameters are found anywhere in
the text, even inside other words and comments.

* A class declaration is `class`, at the start of a line after optional blanks,
  followed by blanks and a name of word characters and colons. The blanks may span
  lines.
* A hard-coded password is `password` in any case (the long `ſ` counts as `s`),
  optional blanks, `=>`, optional blanks, a quote, and another quote later on the same
  line. Only the first is reported, with its line.
* A line has trailing blanks when it ends in a space, tab, form feed or carriage
  return.

A file is first given to the linter, whose findings come first; then it is read and
checked.

## Main definitions

* `manifestChecks` — the checks in order
* `checkManifest` — the findings of a manifest
* `Linter` — what runs the linter on a file
* `puppetRule` — the rule on a tree
-/

namespace IacLint.Puppet

open IacLint.Text Pattern IacLint.Files IacLint.Lint

/-- A check of one manifest. -/
abbrev ManifestCheck := String → Manifest → List Finding

/-- Deprecated resource types that occur in the text. -/
def checkDeprecatedResources : ManifestCheck := fun path m =>
  (Catalog.deprecatedResourceTypes.filter fun r => occursIn r m.text).map fun r =>
    ⟨path, .warn, "Deprecated resource type '" ++ r ++ "' used"⟩

/-- A blank character. -/
def blank : Pattern := .one isBlank

/-- `class`, blanks, and a name of word characters and colons. -/
def classDeclaration : Pattern :=
  chain [.many blank, lit "class", oneOrMore blank, oneOrMore (.one fun c => isWordChar c || c == ':')]

/-- A manifest without a class declaration at the start of some line. -/
def checkClassDeclaration : ManifestCheck := fun path m =>
  match classDeclaration.searchLineStarts? m.text with
  | some _ => []
  | none => [⟨path, .warn, "No class declaration found in manifest"⟩]

/-- A letter in either case; `s` also as the long `ſ`. -/
def anyCase (c : Char) : Pattern :=
  .one fun x => x == c || x == c.toUpper || (c == 's' && x == '\u017F')

/-- A quote character. -/
def quoteMark : Pattern := oneOf "\"'"

/-- `password => '...'`, as a quoted literal on the line. -/
def hardcodedPassword : Pattern :=
  chain ("password".toList.map anyCase ++
    [.many blank, lit "=>", .many blank, quoteMark, .many (.one (· != '\n')), quoteMark])

/-- The first hard-coded password, with its line. -/
def checkHardcodedPassword : ManifestCheck := fun path m =>
  match hardcodedPassword.search? m.text with
  | some (start, _, _) =>
    let line := (m.text.toList.take start).count '\n' + 1
    [⟨path, .error, "Possible hardcoded password detected on line " ++ toString line⟩]
  | none => []

/-- Whether a line ends in a space, tab, form feed or carriage return. -/
def hasTrailingBlank (line : String) : Bool :=
  match line.toList.getLast? with
  | some c => c == ' ' || c == '\t' || c == '\x0c' || c == '\r'
  | none => false

/-- Lines with trailing blanks, by number from 1. -/
def checkTrailingWhitespace : ManifestCheck := fun path m =>
  ((m.lines.zipIdx 1).filter fun (l, _) => hasTrailingBlank l).map fun (_, n) =>
    ⟨path, .warn, "Trailing whitespace on line " ++ toString n⟩

/-- Disallowed parameters that occur in the text. -/
def checkDisallowedParameters : ManifestCheck := fun path m =>
  (Catalog.disallowedParameters.filter fun p => occursIn p m.text).map fun p =>
    ⟨path, .warn, "Disallowed parameter '" ++ p ++ "' used"⟩

/-- The manifest checks, in order. -/
def manifestChecks : List ManifestCheck :=
  [checkDeprecatedResources, checkClassDeclaration, checkHardcodedPassword,
    checkTrailingWhitespace, checkDisallowedParameters]

/-- The findings of the manifest checks. -/
def checkManifest (path : String) (m : Manifest) : List Finding :=
  manifestChecks.flatMap fun c => c path m

/-- What runs the linter on the file at a path: its output, or the message of the
failure it raised. -/
abbrev Linter := String → Except String LinterOutput

/-- The rule for manifests in a tree, with a linter. -/
def puppetRule (t : Tree) (lint : Linter) : Rule where
  name := "puppet"
  extensions := [".pp"]
  scanFile path :=
    match lint path with
    | .error m => { failure := some m }
    | .ok out =>
      let found := linterFindings path out
      match t.readBytes path with
      | .error e => { findings := found ++ [⟨path, .error, "Failed to read file: " ++ e.message⟩] }
      | .ok bs => { findings := found ++ checkManifest path ⟨path, readText bs⟩ }

end IacLint.Puppet
