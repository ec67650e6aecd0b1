/-!
# Searching and replacing in text

Occurrences of one text inside another, found from left to right without overlap.

## Main definitions

* `occursIn` — whether a text occurs inside another
* `replaceAll` — every occurrence replaced, scanning left to right
* `countChar` — the number of occurrences of a character
* `splitOnText` — the pieces of a text between occurrences of another
* `indexOf?` — where a text first occurs inside another
-/

namespace IacLint.Text

/-- Whether `needle` occurs in `hay` starting at some position. -/
def occursInChars (needle : List Char) : List Char → Bool
  | [] => needle.isEmpty
  | c :: rest => needle.isPrefixOf (c :: rest) || occursInChars needle rest

/-- The position of the first occurrence of `needle` in a character list. -/
def indexOf? (needle : List Char) : List Char → Option Nat
  | [] => if needle.isEmpty then some 0 else none
  | c :: rest =>
    if needle.isPrefixOf (c :: rest) then some 0 else (indexOf? needle rest).map (· + 1)

/-- Whether `needle` occurs inside `hay`. -/
def occursIn (needle hay : String) : Bool := occursInChars needle.toList hay.toList

/-- Replaces every occurrence of the non-empty `old` by `new`, scanning left to right and
resuming after each replaced occurrence; `fuel` bounds the steps. -/
def replaceChars (old new : List Char) (fuel : Nat) (cs : List Char) : List Char :=
  match fuel, cs with
  | 0, cs => cs
  | _, [] => []
  | fuel + 1, c :: rest =>
    if !old.isEmpty && old.isPrefixOf (c :: rest) then
      new ++ replaceChars old new fuel ((c :: rest).drop old.length)
    else c :: replaceChars old new fuel rest

/-- Replaces every occurrence of `old` by `new`, left to right without overlap. An
empty `old` leaves the text as it is. -/
def replaceAll (s old new : String) : String :=
  String.ofList (replaceChars old.toList new.toList (s.length + 1) s.toList)

/-- The number of occurrences of `c` in a character list. -/
def countChar (c : Char) (cs : List Char) : Nat := cs.count c

/-- Cuts a character list at every occurrence of the non-empty `sep`, left to right
without overlap; `cur` is the reversed piece begun so far, and `fuel` bounds the
steps. -/
def splitChars (sep : List Char) : Nat → List Char → List Char → List String
  | 0, cs, cur => [String.ofList (cur.reverse ++ cs)]
  | _ + 1, [], cur => [String.ofList cur.reverse]
  | fuel + 1, c :: rest, cur =>
    if !sep.isEmpty && sep.isPrefixOf (c :: rest) then
      String.ofList cur.reverse :: splitChars sep fuel ((c :: rest).drop sep.length) []
    else splitChars sep fuel rest (c :: cur)

/-- The pieces of `s` between occurrences of the non-empty `sep`, found left to right
without overlap: one more piece than occurrences. -/
def splitOnText (s sep : String) : List String := splitChars sep.toList (s.length + 1) s.toList []

end IacLint.Text
