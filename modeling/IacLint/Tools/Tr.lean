import IacLint.Host.Process
import IacLint.Tools.Options

/-!
# Translating characters

`tr` copies its input to its output, translating the bytes of a first set into those of
a second (`tr a-z A-Z`), deleting those of a set (`-d`), or squeezing each run of a
repeated byte of a set into one (`-s`); `-c` takes the complement of the first set.

A set is written with escapes (`\n`, `\t`, `\\`, `\NNN` in octal), ranges (`a-z`),
classes (`[:alpha:]`), equivalence classes (`[=c=]`, the byte itself here) and repeats
(`[c*n]`; `[c*]` fills the second set to the first's length). When translating, a
shorter second set is padded with its last byte, unless `-t` cuts the first set to its
length. The classes are those of the C locale.

## Main definitions

* `SetItem`, `readSet` — a set as written
* `runTr` — the utility
-/

namespace IacLint.Tools.Tr

open IacLint.Host IacLint.Text IacLint.Tools

/-- An item of a set as written. -/
inductive SetItem where
  | byte (b : Nat)
  | range (lo hi : Nat)
  | cls (name : String)
  /-- A byte repeated a number of times, or enough times to fill the set (`none`). -/
  | repeated (b : Nat) (count : Option Nat)
  deriving BEq

/-- The class names a set knows. -/
def classNames : List String :=
  ["alnum", "alpha", "blank", "cntrl", "digit", "graph", "lower", "print", "punct", "space", "upper", "xdigit"]

/-- Whether a byte is in a class of the C locale. -/
def inClass (name : String) (b : Nat) : Bool :=
  let upper := 65 ≤ b && b ≤ 90
  let lower := 97 ≤ b && b ≤ 122
  let digit := 48 ≤ b && b ≤ 57
  match name with
  | "alnum" => upper || lower || digit
  | "alpha" => upper || lower
  | "blank" => b == 32 || b == 9
  | "cntrl" => b < 32 || b == 127
  | "digit" => digit
  | "graph" => 33 ≤ b && b ≤ 126
  | "lower" => lower
  | "print" => 32 ≤ b && b ≤ 126
  | "punct" => 33 ≤ b && b ≤ 126 && !(upper || lower || digit)
  | "space" => b == 32 || (9 ≤ b && b ≤ 13)
  | "upper" => upper
  | "xdigit" => digit || (65 ≤ b && b ≤ 70) || (97 ≤ b && b ≤ 102)
  | _ => false

/-- The bytes of a class, in order. -/
def classBytes (name : String) : List Nat := (List.range 256).filter (inClass name)

/-- The bytes of a set's text with its escapes read, each marked when it was escaped,
and the warnings reading them gives. -/
def unescape (cs : List Nat) : List (Nat × Bool) × List String :=
  let isOctal (b : Nat) : Bool := 48 ≤ b && b ≤ 55
  let rec go : Nat → List Nat → List (Nat × Bool) × List String
    | 0, _ => ([], [])
    | _ + 1, [] => ([], [])
    | fuel + 1, 92 :: rest =>
      match rest with
      | [] => ([(92, true)], ["an unescaped backslash at end of string is not portable"])
      | c :: more =>
        if isOctal c then
          let ds := (c :: more).take 3 |>.takeWhile isOctal
          let v := ds.foldl (fun n d => n * 8 + (d - 48)) 0
          if v > 255 then
            let ds2 := ds.take 2
            let v2 := ds2.foldl (fun n d => n * 8 + (d - 48)) 0
            let (r, ws) := go fuel ((c :: more).drop 2)
            let text (l : List Nat) : String := String.ofList (l.map Char.ofNat)
            ((v2, true) :: r,
              ("the ambiguous octal escape \\" ++ text ds ++ " is being\n\tinterpreted as the 2-byte sequence \\0" ++
                text ds2 ++ ", " ++ text (ds.drop 2)) :: ws)
          else
            let (r, ws) := go fuel ((c :: more).drop ds.length)
            ((v, true) :: r, ws)
        else
          let v := match Char.ofNat c with
            | 'a' => 7 | 'b' => 8 | 'f' => 12 | 'n' => 10 | 'r' => 13 | 't' => 9 | 'v' => 11
            | _ => c
          let (r, ws) := go fuel more
          ((v, true) :: r, ws)
    | fuel + 1, c :: rest =>
      let (r, ws) := go fuel rest
      ((c, false) :: r, ws)
  go (cs.length + 1) cs

/-- The text of some bytes. -/
def bytesText (bs : List Nat) : String := decodeLossy (bs.map Nat.toUInt8)

/-- Finds where a construct closes: the place of `delim` followed by `]`, both
unescaped, at or after `from`. -/
def findClosing (s : Array (Nat × Bool)) (delim : Nat) (start : Nat) : Option Nat :=
  (List.range s.size).find? fun j =>
    j ≥ start && s[j]? == some (delim, false) && s[j + 1]? == some (93, false)

/-- Reads a set into its items, or the complaint about it. -/
def readSet (s : Array (Nat × Bool)) : Except String (List SetItem) :=
  let byteAt (i : Nat) : Nat := (s[i]?.map (·.1)).getD 0
  let plainAt (i : Nat) (b : Nat) : Bool := s[i]? == some (b, false)
  let rec go : Nat → Nat → Except String (List SetItem)
    | 0, _ => .ok []
    | fuel + 1, i =>
      if i ≥ s.size then .ok []
      else
        let construct : Option (Except String (SetItem × Nat)) :=
          if plainAt i 91 && i + 1 < s.size then
            if plainAt (i + 1) 58 || plainAt (i + 1) 61 then
              let delim := byteAt (i + 1)
              match findClosing s delim (i + 2) with
              | some j =>
                let body := ((List.range (j - (i + 2))).map fun k => byteAt (i + 2 + k))
                if delim == 58 then
                  let name := bytesText body
                  if classNames.contains name then some (.ok (.cls name, j + 2))
                  else some (.error ("invalid character class '" ++ name ++ "'"))
                else
                  match body with
                  | [b] => some (.ok (.byte b, j + 2))
                  | _ => some (.error (bytesText body ++ ": equivalence class operand must be a single character"))
              | none => none
            else if i + 2 < s.size && plainAt (i + 2) 42 then
              let c := byteAt (i + 1)
              match (List.range s.size).find? (fun j => j > i + 2 && plainAt j 93) with
              | some j =>
                let digits := (List.range (j - (i + 3))).map fun k => byteAt (i + 3 + k)
                if digits.isEmpty then some (.ok (.repeated c none, j + 1))
                else
                  let isDigit (d : Nat) : Bool := 48 ≤ d && d ≤ 57
                  if digits.all isDigit then
                    let base := if digits.head? == some 48 then 8 else 10
                    if base == 8 && digits.any (· > 55) then
                      some (.error ("invalid repeat count '" ++ bytesText digits ++ "' in [c*n] construct"))
                    else
                      let n := digits.foldl (fun n d => n * base + (d - 48)) 0
                      some (.ok (.repeated c (some n), j + 1))
                  else some (.error ("invalid repeat count '" ++ bytesText digits ++ "' in [c*n] construct"))
              | none => none
            else none
          else none
        match construct with
        | some (.error e) => .error e
        | some (.ok (item, next)) => (go fuel next).map (item :: ·)
        | none =>
          if i + 2 < s.size && plainAt (i + 1) 45 then
            let lo := byteAt i
            let hi := byteAt (i + 2)
            if hi < lo then
              .error ("range-endpoints of '" ++ bytesText [lo, 45, hi] ++ "' are in reverse collating sequence order")
            else (go fuel (i + 3)).map (.range lo hi :: ·)
          else (go fuel (i + 1)).map (.byte (byteAt i) :: ·)
  go (s.size + 1) 0

/-- The bytes of a set's items, in order; a repeat that fills counts `fill` times. -/
def expand (items : List SetItem) (fill : Nat) : List Nat :=
  items.flatMap fun
    | .byte b => [b]
    | .range lo hi => (List.range (hi + 1 - lo)).map (lo + ·)
    | .cls name => classBytes name
    | .repeated b (some n) => List.replicate (min n 65536) b
    | .repeated b none => List.replicate fill b

/-- The number of bytes a set's items stand for, a repeat that fills counting none. -/
def fixedLength (items : List SetItem) : Nat := (expand items 0).length

/-- The places where the case classes of a set start, with their names. -/
def casePlaces (items : List SetItem) : List (Nat × String) :=
  let (_, acc) := items.foldl (fun (pos, acc) it =>
    let len := (expand [it] 0).length
    match it with
    | .cls n => if n == "upper" || n == "lower" then (pos + len, acc ++ [(pos, n)]) else (pos + len, acc)
    | _ => (pos + len, acc)) (0, ([] : List (Nat × String)))
  acc

/-- The complaint and its usage lines about a mistake in how `tr` was started. -/
def trUsage (name message : String) (extra : String := "") : Completed :=
  complaint (name ++ ": " ++ message ++ "\n" ++ extra ++ "Try '" ++ name ++ " --help' for more information.")

/-- Squeezes each run of a repeated byte of a set into one. -/
def squeeze (inSet : Nat → Bool) (bs : List Nat) : List Nat :=
  let (acc, _) := bs.foldl (fun (acc, last) b =>
    if inSet b && last == some b then (acc, last) else (b :: acc, some b)) (([] : List Nat), (none : Option Nat))
  acc.reverse

/-- Translates, deletes or squeezes the input with the sets given. -/
def transform (ctx : Context) (name : String) (complement delete squeezing truncate translating : Bool)
    (a : String) (b : Option String) : Completed :=
  let (s1, w1) := unescape ((encode a).map UInt8.toNat)
  let (s2, w2) := match b with
    | some t => unescape ((encode t).map UInt8.toNat)
    | none => ([], [])
  let warnings := (w1 ++ w2).map fun w => name ++ ": warning: " ++ w
  let warned := warnings.foldl (fun (c : Completed) w => c.warn w) {}
  let fail (m : String) : Completed := { warned.warn (name ++ ": " ++ m) with status := 1 }
  match readSet s1.toArray, readSet s2.toArray with
  | .error e, _ | _, .error e => fail e
  | .ok items1, .ok items2 =>
    if items1.any (fun it => match it with | .repeated _ none => true | _ => false) then
      fail "the [c*] repeat construct may not appear in string1"
    else
    let set1 := expand items1 0
    let set1 := if complement then (List.range 256).filter (!set1.contains ·) else set1
    let input := ctx.input.bytes.map UInt8.toNat
    let finish (out : List Nat) : Completed :=
      { warned.emit .out (out.map Nat.toUInt8) with leftover := some {} }
    if translating then
      if b == some "" && !truncate then fail "when not truncating set1, string2 must be non-empty"
      else if items2.any (fun it => match it with
          | .cls n => n != "upper" && n != "lower"
          | _ => false) then
        fail "when translating, the only character classes that may appear in\nstring2 are 'upper' and 'lower'"
      else
        let fill := set1.length - fixedLength items2
        let set2 := expand items2 fill
        let endsWithClass := match items2.getLast? with
          | some (.cls _) => true
          | _ => false
        if set1.length > set2.length && endsWithClass && !truncate then
          fail "when translating with string1 longer than string2,\nthe latter string must not end with a character class"
        else
          let places1 := casePlaces items1
          let misaligned := (casePlaces items2).any fun (p, _) => !(places1.any (·.1 == p))
          if misaligned && !complement then fail "misaligned [:upper:] and/or [:lower:] construct"
          else
            let set1 := if truncate then set1.take set2.length else set1
            let set2 := if set2.length < set1.length then
                set2 ++ List.replicate (set1.length - set2.length) (set2.getLast?.getD 0)
              else set2
            let table := (set1.zip set2).foldl (fun (t : Array Nat) (x, y) => t.set! x y)
              (Array.ofFn (n := 256) fun i => i.val)
            let out := input.map fun x => table[x]?.getD x
            let out := if squeezing then squeeze (set2.contains ·) out else out
            finish out
    else if delete then
      let kept := input.filter (!set1.contains ·)
      let out := if squeezing then squeeze ((expand items2 0).contains ·) kept else kept
      finish out
    else finish (squeeze (set1.contains ·) input)

/-- `tr` run as `name` on its input. -/
def runTr (ctx : Context) (name : String) (args : List String) : Completed :=
  let spec : OptionSpec :=
    { flags := "cCdst".toList,
      longs := [("complement", "c", false), ("delete", "d", false), ("squeeze-repeats", "s", false),
        ("truncate-set1", "t", false), ("help", "help", false), ("version", "version", false)] }
  match readOptions spec args with
  | .error m => complaint (usageLines name m)
  | .ok (gs, operands) =>
    let complement := hasOption gs "c" || hasOption gs "C"
    let delete := hasOption gs "d"
    let squeezing := hasOption gs "s"
    let truncate := hasOption gs "t"
    let translating := !delete && !(squeezing && operands.length == 1)
    let needed := if delete && squeezing then 2 else if delete then 1 else if squeezing then 1 else 2
    match operands with
    | [] => trUsage name "missing operand"
    | [a] =>
      if needed == 2 then
        trUsage name ("missing operand after '" ++ a ++ "'")
          (if delete && squeezing then "Two strings must be given when both deleting and squeezing repeats.\n"
           else "Two strings must be given when translating.\n")
      else transform ctx name complement delete squeezing truncate translating a none
    | [a, b] =>
      if delete && !squeezing then
        trUsage name ("extra operand '" ++ b ++ "'") "Only one string may be given when deleting without squeezing repeats.\n"
      else transform ctx name complement delete squeezing truncate translating a (some b)
    | _ :: _ :: c :: _ => trUsage name ("extra operand '" ++ c ++ "'")

end IacLint.Tools.Tr
