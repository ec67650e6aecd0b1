/-!
# Reading options with `getopts`

`getopts OPTSTRING NAME [ARG…]` reads the next option of its arguments (or of the
positional parameters): each call puts the option's letter in `NAME`, its value in
`OPTARG`, and the number of the next argument to read in `OPTIND`, and fails once
the options end (at an argument that is not an option, after `--`, or at the end). A
letter followed by `:` in `OPTSTRING` takes a value, from the rest of its argument or
from the next one. An unknown letter, or one without its value, gives `?` and a
complaint, unless `OPTSTRING` starts with `:`, which makes the call quiet and puts the
letter in `OPTARG` (and `:` in `NAME` for a missing value).

Between calls each shell keeps where it is inside a cluster of letters (`-ab`). The
shells differ there: the POSIX shell counts `OPTIND` past the argument being read as
soon as it starts it, the larger shell only once its last letter is read; and the
POSIX shell sets `OPTARG` to nothing for a letter without a value, where the larger
one unsets it.

## Main definitions

* `OptionStep` — what one call gives
* `posixStep`, `bashStep` — one call, in each shell
-/

namespace IacLint.Shell

/-- What one call of `getopts` gives. -/
structure OptionStep where
  /-- The new `OPTIND`. -/
  index : Nat
  /-- Where the next call goes on inside an argument: the argument's place and the
  letter's place in it. -/
  place : Option (Nat × Nat) := none
  /-- What goes in `NAME`. -/
  letter : Char := '?'
  /-- What becomes of `OPTARG`: unchanged (`none`), unset (`some none`) or set. -/
  optarg : Option (Option String) := none
  /-- The complaint written, if any. -/
  complaint : Option String := none
  /-- Whether the options have ended. -/
  done : Bool := false

/-- Whether a letter is an option of an option string, and whether it takes a value:
the letters are read in order, each with an optional `:` after it. -/
def optionTakesValue? (c : Char) : List Char → Option Bool
  | [] => none
  | [q] => if q == c then some false else none
  | q :: ':' :: rest => if q == c then some true else optionTakesValue? c rest
  | q :: r :: rest => if q == c then some false else optionTakesValue? c (r :: rest)

/-- The letter read from the argument at `wi` (counted from 0), the letters after it
in that argument, and where the argument lies; the POSIX shell's reading. -/
def posixLetter (spec : List Char) (params : List String) (wi : Nat) (word : List Char) :
    Char → List Char → OptionStep
  | c, rest =>
    let quiet := spec.head? == some ':'
    let off := word.length - rest.length
    match optionTakesValue? c spec with
    | none =>
      { index := wi + 2, place := some (wi, off),
        optarg := some (if quiet then some (String.ofList [c]) else none),
        complaint := if quiet then none else some ("Illegal option -" ++ String.ofList [c]) }
    | some false => { index := wi + 2, place := some (wi, off), letter := c, optarg := some (some "") }
    | some true =>
      if !rest.isEmpty then { index := wi + 2, letter := c, optarg := some (some (String.ofList rest)) }
      else
        match params[wi + 1]? with
        | some a => { index := wi + 3, letter := c, optarg := some (some a) }
        | none =>
          if quiet then { index := wi + 2, letter := ':', optarg := some (some (String.ofList [c])) }
          else { index := wi + 2, optarg := some none,
                 complaint := some ("No arg for -" ++ String.ofList [c] ++ " option") }

/-- One call of `getopts` in the POSIX shell, over `params`, from `OPTIND` `index`
and the place inside an argument the last call left. -/
def posixStep (spec : List Char) (params : List String) (index : Nat) (place : Option (Nat × Nat)) :
    OptionStep :=
  -- a number too large starts the reading again
  let (index, place) := if index > params.length + 1 then (1, none) else (index, place)
  let atEnd (k : Nat) : OptionStep := { index := k, done := true }
  -- the letters left in the argument the last call stopped inside
  let inside : Option (Nat × List Char × List Char) :=
    match place with
    | some (_, off) =>
      if index ≤ 1 then none
      else
        match params[index - 2]? with
        | some w =>
          let word := w.toList
          if word.length < off then none
          else
            let rest := word.drop off
            if rest.isEmpty then none else some (index - 2, word, rest)
        | none => none
    | none => none
  match inside with
  | some (wi, word, c :: rest) => posixLetter spec params wi word c rest
  | _ =>
    match params[index - 1]? with
    | none => atEnd index
    | some cur =>
      match cur.toList with
      | '-' :: c :: rest =>
        if c == '-' && rest.isEmpty then atEnd (index + 1)
        else posixLetter spec params (index - 1) cur.toList c rest
      | _ => atEnd index

/-- One call of `getopts` in the larger shell, over `args`, which start with `$0`,
from `OPTIND` `index` and the place inside an argument the last call left. -/
def bashStep (spec : List Char) (args : List String) (index : Nat) (place : Option (Nat × Nat)) :
    OptionStep :=
  let quiet := spec.head? == some ':'
  let spec := if quiet then spec.drop 1 else spec
  let name := args.headD ""
  let (index, place) := if index == 0 then (1, none) else (index, place)
  let eof (k : Nat) : OptionStep := { index := k, done := true, optarg := some none }
  if index ≥ args.length then eof args.length
  else
    -- the argument and the place of the letter to read
    let resumed : Option (Nat × Nat) :=
      match place with
      | some (w, ci) =>
        match args[w]? with
        | some word => if ci < word.length then some (w, ci) else none
        | none => none
      | none => none
    let next : Except Nat (Nat × Nat) :=
      match resumed with
      | some p => .ok p
      | none =>
        match args[index]? with
        | none => .error index
        | some temp =>
          if temp == "--" then .error (index + 1)
          else if !temp.startsWith "-" || temp == "-" then .error index
          else .ok (index, 1)
    match next with
    | .error k => eof k
    | .ok (w, ci) =>
      let word := (args[w]?.getD "").toList
      let c := word[ci]?.getD '?'
      let last := ci + 1 ≥ word.length
      let index := if last then index + 1 else index
      let place := if last then none else some (w, ci + 1)
      let lc := String.ofList [c]
      match (if c == ':' then none else optionTakesValue? c spec) with
      | none =>
        { index, place, optarg := some (if quiet then some lc else none),
          complaint := if quiet then none else some (name ++ ": illegal option -- " ++ lc) }
      | some false => { index, place, letter := c, optarg := some none }
      | some true =>
        if !last then
          { index := index + 1, letter := c, optarg := some (some (String.ofList (word.drop (ci + 1)))) }
        else
          match args[index]? with
          | some a => { index := index + 1, letter := c, optarg := some (some a) }
          | none =>
            if quiet then { index, letter := ':', optarg := some (some lc) }
            else { index, optarg := some none,
                   complaint := some (name ++ ": option requires an argument -- " ++ lc) }

end IacLint.Shell
