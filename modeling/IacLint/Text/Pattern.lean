/-!
# Backtracking patterns

A small language of text patterns (characters, sequence, alternation, greedy
repetition and numbered groups) with the meaning of a backtracking matcher: a pattern
gives *every* way it can match a prefix of the text, in the order such a matcher tries
them. Alternation tries its left side first, repetition tries more repetitions before
fewer. The first way that also satisfies what follows is the one a matcher reports,
so a match "anchored at the end" is the first way whose rest is empty.

Repetition only counts repetitions that consume text, which bounds it by the length of
the text; every definition here is structural.

## Main definitions

* `Pattern` — patterns
* `Pattern.run` — every way a pattern matches a prefix, with its groups
* `Pattern.fullMatch?` — the groups of the first match of a whole text
* `Pattern.search?`, `Pattern.searchLineStarts?` — the first match at the earliest position
-/

namespace IacLint.Text

/-- A text pattern. -/
inductive Pattern where
  /-- The empty text. -/
  | empty
  /-- One character that passes the test. -/
  | one (test : Char → Bool)
  /-- One pattern followed by another. -/
  | seq (a b : Pattern)
  /-- The first pattern, or else the second. -/
  | alt (a b : Pattern)
  /-- Repetitions of a pattern, as many as possible first. -/
  | many (a : Pattern)
  /-- A pattern whose match is remembered under a group number. -/
  | group (k : Nat) (a : Pattern)

/-- Groups matched so far: number and text, the latest first. -/
abbrev Captures := List (Nat × String)

/-- The text of group `k`, if it took part in the match. -/
def Captures.get? (caps : Captures) (k : Nat) : Option String := caps.lookup k

/-- Every way of repeating `step` from `cs`, most repetitions first; a repetition that
consumes nothing ends the repeating, and `fuel` bounds the repetitions. -/
def repeatSteps (step : List Char → Captures → List (Captures × List Char)) :
    Nat → List Char → Captures → List (Captures × List Char)
  | 0, cs, caps => [(caps, cs)]
  | fuel + 1, cs, caps =>
    ((step cs caps).flatMap fun r =>
      if r.2.length < cs.length then repeatSteps step fuel r.2 r.1 else []) ++ [(caps, cs)]

namespace Pattern

/-- Every way the pattern matches a prefix of `cs`, given the groups matched before:
the groups after it and the rest of the text, in the order a backtracking matcher
tries them. -/
def run : Pattern → List Char → Captures → List (Captures × List Char)
  | .empty, cs, caps => [(caps, cs)]
  | .one test, cs, caps =>
    match cs with
    | c :: rest => if test c then [(caps, rest)] else []
    | [] => []
  | .seq a b, cs, caps => (a.run cs caps).flatMap fun r => b.run r.2 r.1
  | .alt a b, cs, caps => a.run cs caps ++ b.run cs caps
  | .many a, cs, caps => repeatSteps a.run (cs.length + 1) cs caps
  | .group k a, cs, caps =>
    (a.run cs caps).map fun r => ((k, String.ofList (cs.take (cs.length - r.2.length))) :: r.1, r.2)

/-- A character equal to `c`. -/
def char (c : Char) : Pattern := .one (· == c)

/-- A character among those of `s`. -/
def oneOf (s : String) : Pattern := .one fun c => s.toList.contains c

/-- An ASCII digit. -/
def digit : Pattern := .one fun c => '0' ≤ c && c ≤ '9'

/-- The patterns one after another. -/
def chain (ps : List Pattern) : Pattern := ps.foldr .seq .empty

/-- The first of the patterns that matches, trying them in order. -/
def choice (ps : List Pattern) : Pattern :=
  match ps with
  | [] => .one fun _ => false
  | p :: rest => rest.foldl .alt p

/-- The text itself. -/
def lit (s : String) : Pattern := chain (s.toList.map char)

/-- The pattern or nothing, the pattern first. -/
def opt (p : Pattern) : Pattern := .alt p .empty

/-- One or more repetitions. -/
def oneOrMore (p : Pattern) : Pattern := .seq p (.many p)

/-- Whether a rest of the text satisfies an end anchor: nothing left, or only a final
line break. -/
def atEnd (rest : List Char) : Bool := rest.isEmpty || rest == ['\n']

/-- The groups of the first match of the pattern from the start of the text up to its
end (or a final line break). -/
def fullMatch? (p : Pattern) (s : String) : Option Captures :=
  ((p.run s.toList []).find? fun r => atEnd r.2).map (·.1)

/-- Whether the pattern matches the whole text (up to a final line break). -/
def fullMatches (p : Pattern) (s : String) : Bool := (p.fullMatch? s).isSome

/-- The first match at a position `starts` allows (given the character before it), trying
positions from left to right: the position, the groups, and the rest. `i` counts the
characters passed. -/
def searchFrom (p : Pattern) (starts : Option Char → Bool) :
    Nat → Option Char → List Char → Option (Nat × Captures × List Char)
  | i, prev, [] =>
    if starts prev then ((p.run [] []).head?).map fun r => (i, r.1, r.2) else none
  | i, prev, c :: rest =>
    let here := if starts prev then (p.run (c :: rest) []).head? else none
    match here with
    | some r => some (i, r.1, r.2)
    | none => searchFrom p starts (i + 1) (some c) rest

/-- The first match at the earliest position of the text. -/
def search? (p : Pattern) (s : String) : Option (Nat × Captures × List Char) :=
  searchFrom p (fun _ => true) 0 none s.toList

/-- The first match at the earliest start of a line: the start of the text or just after
a `\n`. -/
def searchLineStarts? (p : Pattern) (s : String) : Option (Nat × Captures × List Char) :=
  searchFrom p (fun prev => prev.isNone || prev == some '\n') 0 none s.toList

end Pattern

end IacLint.Text
