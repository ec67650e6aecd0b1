/-!
# Sets of code points as ranges

Unicode properties (blank, word, printable, decimal digit) are sets of code points
that come in long runs. A `CodeRanges` holds such a set as a list of closed ranges,
written compactly as hexadecimal text (`"30-39,41-5a,5f"`), so that a table of
several hundred runs costs one string literal.

## Main definitions

* `CodeRanges` — a set of code points given by closed ranges
* `CodeRanges.ofHex` — reads the compact hexadecimal form
* `CodeRanges.contains` — membership test
-/

namespace IacLint.Text

/-- A set of code points: the union of the closed ranges `lo..hi`. -/
structure CodeRanges where
  /-- The ranges, each as `(lo, hi)` with `lo ≤ hi`. -/
  ranges : List (Nat × Nat)
  deriving Inhabited

namespace CodeRanges

/-- The value of a hexadecimal digit, if `c` is one. -/
def hexDigit? (c : Char) : Option Nat :=
  if '0' ≤ c ∧ c ≤ '9' then some (c.toNat - '0'.toNat)
  else if 'a' ≤ c ∧ c ≤ 'f' then some (c.toNat - 'a'.toNat + 10)
  else if 'A' ≤ c ∧ c ≤ 'F' then some (c.toNat - 'A'.toNat + 10)
  else none

/-- Reads a run of hexadecimal digits; an empty or malformed run reads as zero. -/
def readHex (cs : List Char) : Nat :=
  cs.foldl (fun acc c => acc * 16 + (hexDigit? c).getD 0) 0

/-- The pieces of `cs` between the occurrences of `sep`, the piece read so far kept
reversed in `cur`: what splitting the text at `sep` gives, but by structural recursion,
so that a table can be evaluated inside a proof. -/
def piecesAt (sep : Char) : List Char → List Char → List (List Char)
  | [], cur => [cur.reverse]
  | c :: rest, cur =>
    if c = sep then cur.reverse :: piecesAt sep rest [] else piecesAt sep rest (c :: cur)

/-- Reads one item of the compact form, as characters: `lo-hi` or a single `c`. -/
def readItem (cs : List Char) : Nat × Nat :=
  match piecesAt '-' cs [] with
  | [a, b] => (readHex a, readHex b)
  | _ => let n := readHex cs; (n, n)

/-- Reads one item of the compact form: `"lo-hi"` or a single `"c"`. -/
def readRange (item : String) : Nat × Nat :=
  readItem item.toList

/-- Reads the compact form: comma-separated items, each `"lo-hi"` or `"c"`. -/
def ofHex (s : String) : CodeRanges :=
  ⟨(piecesAt ',' s.toList []).filter (!·.isEmpty) |>.map readItem⟩

/-- Whether the code point `n` lies in one of the ranges. -/
def containsNat (t : CodeRanges) (n : Nat) : Bool :=
  t.ranges.any fun r => r.1 ≤ n && n ≤ r.2

/-- Whether the character `c` lies in one of the ranges. -/
def contains (t : CodeRanges) (c : Char) : Bool :=
  t.containsNat c.toNat

theorem contains_iff (t : CodeRanges) (c : Char) :
    t.contains c = true ↔ ∃ r ∈ t.ranges, r.1 ≤ c.toNat ∧ c.toNat ≤ r.2 := by
  simp [contains, containsNat]

end CodeRanges

end IacLint.Text
