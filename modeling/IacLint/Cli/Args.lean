import IacLint.Engine

/-!
# Command-line arguments

The command line is `infra-check [-v] scan DIALECT PATH [options]`. Arguments are read
the way the common option parser does:

* Every argument is first classified. An argument is an option when it is one of the
  parser's spellings, or `--name=value` / `-xVALUE` of one, or an unambiguous prefix of
  a long spelling (`--form` for `--format`). `-` alone, negative numbers and anything
  holding a space are plain values, as is everything after `--`. A prefix of two or
  more spellings is an error, even before anything else is done.
* Then, from left to right, plain values fill the positional arguments and options are
  applied: an option that takes a value takes the next argument, which must be a plain
  value (so never `--`); `--verbose`/`-v` counts; `-h` asks for help, which ends
  parsing at once. Single letters may be run together after a single dash (`-vv`,
  `-hfjson`): a letter that names no option leaves the rest of the run over.
* A `--` goes with a positional it directly follows, or with one still unfilled;
  otherwise it is left over.
* Values of `--format`, `--fail-on` and the dialect must be among their choices, and the
  linter time limit must read as a number; a bad value is an error when its option is
  applied. Missing positionals, unknown options and arguments left over are errors
  only once every argument has been read, so help given anywhere wins over them.

Parsing ends in help (exit status 0), in an error (exit status 2), or in the
arguments.

## Main definitions

* `CliArgs` — the arguments of a scan
* `ParseResult` — help, an error, or the arguments
* `parseArgs` — reads a command line
-/

namespace IacLint.Cli

/-- What an option sets. -/
inductive Setting where
  | help
  | verbose
  | reportFormat
  | failOn
  | output
  | config
  | linterCommand
  | linterTimeout
  deriving DecidableEq, Inhabited

/-- An option: its spellings and what it sets. -/
structure OptionSpec where
  spellings : List String
  setting : Setting
  deriving Inhabited

/-- Whether an option takes a value. -/
def Setting.takesValue : Setting → Bool
  | .help | .verbose => false
  | _ => true

/-- The options before the subcommand. -/
def topOptions : List OptionSpec :=
  [⟨["-h", "--help"], .help⟩, ⟨["--verbose", "-v"], .verbose⟩]

/-- The options of `scan`. -/
def scanOptions : List OptionSpec :=
  [⟨["-h", "--help"], .help⟩, ⟨["--format", "-f"], .reportFormat⟩, ⟨["--fail-on"], .failOn⟩,
   ⟨["--out", "--output"], .output⟩, ⟨["--config"], .config⟩,
   ⟨["--linter-command"], .linterCommand⟩, ⟨["--linter-timeout"], .linterTimeout⟩]

/-- How an argument is classified. -/
inductive ArgKind where
  /-- A plain value. -/
  | value
  /-- The `--` that ends the options. -/
  | endOfOptions
  /-- An option: the one it names, if known; whether it was named by a single-dash
  spelling; a value given with it; and whether that value followed `=`. -/
  | option (spec : Option OptionSpec) (short : Bool) (attached : Option String) (equals : Bool)
  deriving Inhabited

/-- Every spelling with its option, in order. -/
def spellingsOf (opts : List OptionSpec) : List (String × OptionSpec) :=
  opts.flatMap fun o => o.spellings.map fun s => (s, o)

/-- Whether a spelling has a single dash. -/
def isShortSpelling (sp : String) : Bool := !sp.startsWith "--"

/-- Whether a character is a decimal digit of any script. -/
def isDecimalDigit (c : Char) : Bool := (Text.decimalValue? c).isSome

/-- Whether an argument reads as a negative number: `-` and digits, or `-`, digits and
a point with digits after it. Digits of every script count, and one line break may end
the argument, since the end of the pattern also matches just before a last line break. -/
def isNegativeNumber (s : String) : Bool :=
  let cs := if s.endsWith "\n" then s.toList.dropLast else s.toList
  match cs with
  | '-' :: rest =>
    let whole := rest.takeWhile isDecimalDigit
    match rest.drop whole.length with
    | [] => !whole.isEmpty
    | '.' :: frac => !frac.isEmpty && frac.all isDecimalDigit
    | _ => false
  | _ => false

/-- Splits an argument at its first `=`. -/
def splitAtEquals (s : String) : Option (String × String) :=
  (s.toList.findIdx? (· == '=')).map fun i =>
    (String.ofList (s.toList.take i), String.ofList (s.toList.drop (i + 1)))

/-- The options an argument may abbreviate, each as it would be classified. A long
argument is a prefix of long spellings, with a value after `=`; a short one is a
single-letter spelling with the rest of the argument attached, or a prefix of other
spellings. -/
def candidates (opts : List OptionSpec) (s : String) : List ArgKind :=
  let all := spellingsOf opts
  match s.toList with
  | '-' :: '-' :: _ =>
    let (pfx, attached) := match splitAtEquals s with
      | some (p, v) => (p, some v)
      | none => (s, none)
    (all.filter fun (sp, _) => sp.startsWith pfx).map fun (sp, o) =>
      .option (some o) (isShortSpelling sp) attached attached.isSome
  | '-' :: c :: rest =>
    all.filterMap fun (sp, o) =>
      if sp == String.ofList ['-', c] then some (.option (some o) true (some (String.ofList rest)) false)
      else if sp.startsWith s then some (.option (some o) (isShortSpelling sp) none false)
      else none
  | _ => []

/-- Classifies one argument, or fails when it abbreviates several options. -/
def classify (opts : List OptionSpec) (s : String) : Option ArgKind :=
  let all := spellingsOf opts
  if s.isEmpty || !s.startsWith "-" then some .value
  else if let some o := all.lookup s then some (.option (some o) (isShortSpelling s) none false)
  else if s.length == 1 then some .value
  else
    let eqSplit := (splitAtEquals s).bind fun (sp, v) =>
      (all.lookup sp).map fun o => ArgKind.option (some o) (isShortSpelling sp) (some v) true
    match eqSplit with
    | some k => some k
    | none =>
      match candidates opts s with
      | [k] => some k
      | _ :: _ :: _ => none
      | [] =>
        if isNegativeNumber s || s.toList.contains ' ' then some .value
        else some (.option none false none false)

/-- Classifies every argument; `--` makes everything after it a plain value. -/
def classifyAll (opts : List OptionSpec) : List String → Option (List ArgKind)
  | [] => some []
  | s :: rest =>
    if s == "--" then some (.endOfOptions :: rest.map fun _ => .value)
    else do
      let k ← classify opts s
      let ks ← classifyAll opts rest
      pure (k :: ks)

/-- The options a run of single-letter options applies, starting from option `o` with
the letters `cs` given after it (after `=` when `equals`). An option that takes a value
takes the letters as its value; one that takes none is followed by the option the next
letter names, and the letters after that, or by the next argument when none are left.
A letter that names no option leaves the rest of the run over (the flag). `none` when
the run is refused: a value given to an option that takes none, after `=`, empty, or
starting with a dash. -/
def cluster (opts : List OptionSpec) (o : OptionSpec) (equals : Bool) (cs : List Char) :
    Option (List (OptionSpec × Option String) × Bool) :=
  if o.setting.takesValue then some ([(o, some (String.ofList cs))], false)
  else
    match cs with
    | [] => none
    | c :: rest =>
      if equals || c == '-' then none
      else
        match (spellingsOf opts).lookup (String.ofList ['-', c]) with
        | none => some ([(o, none)], true)
        | some o' =>
          match rest with
          | [] => some ([(o, none), (o', none)], false)
          | '=' :: r => (cluster opts o' true r).map fun (steps, left) => ((o, none) :: steps, left)
          | d :: r => (cluster opts o' false (d :: r)).map fun (steps, left) => ((o, none) :: steps, left)
termination_by cs.length
decreasing_by all_goals (simp only [List.length_cons]; omega)

/-- The options one option argument applies, in order, each with its value when the
argument gives it, and whether part of the argument was left over. Only the last may
lack a value it needs; it then takes the next argument. `none` when the argument is
refused: a value attached to a long option that takes none, or a refused run of
letters. -/
def expand (opts : List OptionSpec) (o : OptionSpec) (short : Bool) (attached : Option String)
    (equals : Bool) : Option (List (OptionSpec × Option String) × Bool) :=
  match attached with
  | none => some ([(o, none)], false)
  | some v =>
    if o.setting.takesValue then some ([(o, some v)], false)
    else if short then cluster opts o equals v.toList
    else none

/-- The arguments of a scan. -/
structure CliArgs where
  verbose : Nat := 0
  dialect : String := ""
  path : String := ""
  reportFormat : Option String := none
  failOn : Option String := none
  output : Option String := none
  config : Option String := none
  linterCommand : Option String := none
  linterTimeout : Option Float := none
  deriving Inhabited

/-- How parsing ends. -/
inductive ParseResult where
  | help
  | error
  | ok (args : CliArgs)
  deriving Inhabited

/-- Sets a value option, checking choices and the number. -/
def setValue (a : CliArgs) (setting : Setting) (v : String) : Option CliArgs :=
  match setting with
  | .reportFormat => if Config.reportFormats.contains v then some { a with reportFormat := some v } else none
  | .failOn => if Severity.thresholdChoices.contains v then some { a with failOn := some v } else none
  | .output => some { a with output := some v }
  | .config => some { a with config := some v }
  | .linterCommand => some { a with linterCommand := some v }
  | .linterTimeout => (Number.readFloat? v).map fun x => { a with linterTimeout := some x }
  | _ => some a

/-- How reading arguments stands: going on with a state, or ended in help or an error. -/
inductive Reading (σ : Type) where
  | going (st : σ)
  | help
  | error
  deriving Inhabited

/-- The state of parsing `scan`'s arguments: the arguments so far, the positionals
filled, whether something was left over, and whether the last argument filled a
positional. -/
structure ScanState where
  args : CliArgs := {}
  positionals : Nat := 0
  unknown : Bool := false
  justFilled : Bool := false
  deriving Inhabited

/-- Fills the next positional with a value; a value with none left over is left over. -/
def ScanState.fill (st : ScanState) (v : String) : Reading ScanState :=
  match st.positionals with
  | 0 =>
    if dialects.contains v then
      .going { st with args := { st.args with dialect := v }, positionals := 1, justFilled := true }
    else .error
  | 1 => .going { st with args := { st.args with path := v }, positionals := 2, justFilled := true }
  | _ => .going { st with unknown := true, justFilled := false }

/-- Applies the options of one argument, in order; help ends reading at once. -/
def ScanState.apply (st : ScanState) : List (OptionSpec × String) → Reading ScanState
  | [] => .going st
  | (o, v) :: more =>
    if o.setting == .help then .help
    else if !o.setting.takesValue then ScanState.apply st more
    else
      match setValue st.args o.setting v with
      | some a => ScanState.apply { st with args := a } more
      | none => .error

/-- The options of an argument with the value each takes: its own or, for the last,
the next argument, which must be a plain value. Gives the rest of the arguments. -/
def withValues (steps : List (OptionSpec × Option String)) (rest : List (String × ArgKind)) :
    Option (List (OptionSpec × String) × List (String × ArgKind)) :=
  let given := steps.filterMap fun (o, v) => match v with
    | some x => some (o, x)
    | none => if o.setting.takesValue then none else some (o, "")
  match steps.getLast? with
  | some (o, none) =>
    if o.setting.takesValue then
      match rest with
      | (v, .value) :: more => some (given ++ [(o, v)], more)
      | _ => none
    else some (given, rest)
  | _ => some (given, rest)

/-- Runs over `scan`'s classified arguments from left to right. After `--` every
argument is a plain value; the `--` itself goes with a positional, the one it follows
or one still to be filled, and is left over when there is none. -/
def scanLoop : Nat → List (String × ArgKind) → ScanState → Reading ScanState
  | 0, _, _ => .error
  | _ + 1, [], st => .going st
  | fuel + 1, (s, k) :: rest, st =>
    match k with
    | .endOfOptions =>
      let st := if st.positionals < 2 || st.justFilled then st else { st with unknown := true }
      scanLoop fuel rest { st with justFilled := false }
    | .value =>
      match st.fill s with
      | .going st' => scanLoop fuel rest st'
      | r => r
    | .option none _ _ _ => scanLoop fuel rest { st with unknown := true, justFilled := false }
    | .option (some o) short attached equals =>
      let st := { st with justFilled := false }
      match expand scanOptions o short attached equals with
      | none => .error
      | some (steps, left) =>
        match withValues steps rest with
        | none => .error
        | some (given, more) =>
          let st := if left then { st with unknown := true } else st
          match st.apply given with
          | .going st' => scanLoop fuel more st'
          | r => r

/-- Reads the arguments of `scan`. -/
def parseScan (verbose : Nat) (argv : List String) : ParseResult :=
  match classifyAll scanOptions argv with
  | none => .error
  | some kinds =>
    match scanLoop (argv.length + 1) (argv.zip kinds) {} with
    | .error => .error
    | .help => .help
    | .going st =>
      if st.positionals < 2 || st.unknown then .error
      else .ok { st.args with verbose }

/-- Runs over the arguments before the subcommand, counting `-v`; gives the count, the
subcommand's arguments (from the first plain value or `--` on, as they are), and
whether something unknown was met. -/
def topLoop : Nat → List (String × ArgKind) → Nat → Bool → Reading (Nat × List String × Bool)
  | 0, _, _, _ => .error
  | _ + 1, [], _, _ => .error
  | fuel + 1, (s, k) :: rest, count, unknown =>
    match k with
    | .value | .endOfOptions => .going (count, s :: rest.map (·.1), unknown)
    | .option none _ _ _ => topLoop fuel rest count true
    | .option (some o) short attached equals =>
      match expand topOptions o short attached equals with
      | none => .error
      | some (steps, left) =>
        if steps.any fun (o, _) => o.setting == .help then .help
        else topLoop fuel rest (count + steps.length) (unknown || left)

/-- The usage line shown with help and with argument errors. -/
def usage : String := "usage: infra-check [-h] [--verbose] \x7bscan\x7d ..."

/-- Reads a command line. -/
def parseArgs (argv : List String) : ParseResult :=
  match classifyAll topOptions argv with
  | none => .error
  | some kinds =>
    match topLoop (argv.length + 1) (argv.zip kinds) 0 false with
    | .error => .error
    | .help => .help
    | .going (count, rest, unknown) =>
      match rest with
      | "scan" :: scanArgs =>
        match parseScan count scanArgs with
        | .ok a => if unknown then .error else .ok a
        | other => other
      | _ => .error

end IacLint.Cli
