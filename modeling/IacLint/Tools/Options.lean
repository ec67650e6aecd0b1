/-!
# Command-line options of the utilities

The utilities read their options as the common argument reader does: options and
operands may mix until `--`, which ends the options; a lone `-` is an operand; short
options cluster (`-nv`), and one that takes a value takes the rest of its argument or
the next argument (`-n5`, `-n 5`); long options may be shortened to any unambiguous
prefix and take a value after `=` or as the next argument.

A mistake is reported with the complaint the reader writes, and the utility then
fails, its name and `Try '… --help' for more information.` around the complaint.

## Main definitions

* `OptionSpec` — the options a utility knows
* `readOptions` — the options given, in order, and the operands
-/

namespace IacLint.Tools

/-- The options a utility knows: short letters without a value, short letters with one,
short letters whose value is optional (it can only be attached, `-iSUFFIX`), and long
names, each with the key it stands for and whether it takes a value; a long name
whose key is among `optionalLongs` takes one only after `=`. -/
structure OptionSpec where
  flags : List Char := []
  valued : List Char := []
  optional : List Char := []
  longs : List (String × String × Bool) := []
  optionalLongs : List String := []

/-- One option given: its key (the letter, or the key of a long name) and its value. -/
abbrev Given := String × Option String

/-- The long options a shortened name may stand for: the one named exactly, or every
one it starts. -/
def longMatches (spec : OptionSpec) (name : String) : List (String × String × Bool) :=
  match spec.longs.find? (·.1 == name) with
  | some l => [l]
  | none => spec.longs.filter (·.1.startsWith name)

/-- Reads the letters of a cluster of short options after its dash: the options and the
arguments left, or the complaint. -/
def readCluster (spec : OptionSpec) : List Char → List String → Except String (List Given × List String)
  | [], rest => .ok ([], rest)
  | c :: more, rest =>
    if spec.optional.contains c then
      .ok ([(String.ofList [c], if more.isEmpty then none else some (String.ofList more))], rest)
    else if spec.valued.contains c then
      if !more.isEmpty then .ok ([(String.ofList [c], some (String.ofList more))], rest)
      else
        match rest with
        | v :: rest' => .ok ([(String.ofList [c], some v)], rest')
        | [] => .error ("option requires an argument -- '" ++ String.ofList [c] ++ "'")
    else if spec.flags.contains c then
      (readCluster spec more rest).map fun (gs, r) => ((String.ofList [c], none) :: gs, r)
    else .error ("invalid option -- '" ++ String.ofList [c] ++ "'")

/-- Reads the options and operands of the arguments, up to `fuel` of them. -/
def readOptionsFrom (spec : OptionSpec) : Nat → List String → Except String (List Given × List String)
  | 0, args => .ok ([], args)
  | _ + 1, [] => .ok ([], [])
  | fuel + 1, a :: rest =>
    if a == "--" then .ok ([], rest)
    else
      match a.toList with
      | '-' :: '-' :: body =>
        let name := String.ofList (body.takeWhile (· ≠ '='))
        let inline : Option String :=
          if body.contains '=' then some (String.ofList ((body.dropWhile (· ≠ '=')).drop 1)) else none
        match longMatches spec name with
        | [(full, key, takes)] =>
          if takes then
            match inline with
            | some v => (readOptionsFrom spec fuel rest).map fun (gs, os) => ((key, some v) :: gs, os)
            | none =>
              match rest with
              | v :: rest' => (readOptionsFrom spec fuel rest').map fun (gs, os) => ((key, some v) :: gs, os)
              | [] => .error ("option '--" ++ full ++ "' requires an argument")
          else if inline.isSome && !spec.optionalLongs.contains key then
            .error ("option '--" ++ full ++ "' doesn't allow an argument")
          else (readOptionsFrom spec fuel rest).map fun (gs, os) => ((key, inline) :: gs, os)
        | [] => .error ("unrecognized option '" ++ a ++ "'")
        | many =>
          .error ("option '" ++ a ++ "' is ambiguous; possibilities:" ++
            String.join (many.map fun (l, _, _) => " '--" ++ l ++ "'"))
      | '-' :: letters@(_ :: _) => do
        let (gs, rest') ← readCluster spec letters rest
        let (more, os) ← readOptionsFrom spec fuel rest'
        return (gs ++ more, os)
      | _ => (readOptionsFrom spec fuel rest).map fun (gs, os) => (gs, a :: os)

/-- The options given, in order, and the operands, or the complaint about a mistake. -/
def readOptions (spec : OptionSpec) (args : List String) : Except String (List Given × List String) :=
  readOptionsFrom spec (args.length + 1) args

/-- Whether an option was given. -/
def hasOption (gs : List Given) (key : String) : Bool := gs.any (·.1 == key)

/-- The value of the last time an option was given. -/
def optionValue? (gs : List Given) (key : String) : Option String :=
  (gs.filter (·.1 == key)).getLast?.bind (·.2)

/-- The lines a utility writes about a mistake in its arguments. -/
def usageLines (name message : String) : String :=
  name ++ ": " ++ message ++ "\nTry '" ++ name ++ " --help' for more information."

end IacLint.Tools
