import IacLint.Data.Value.Text
import IacLint.Json.Read
import IacLint.Files.Tree
import IacLint.Severity
import IacLint.Scan
import IacLint.Text.Utf8
import IacLint.Number.Parse

/-!
# Scan configuration

A scan is configured by a report format (`text`, `json`, `markdown` or `gha`), a
threshold severity (`fail_on`), and the linter's command and time limit. Settings
come from three sources, each overriding the one before: a JSON file, the
environment, and explicit overrides (those given as null are ignored). The result is
then checked, in this order: the format must be known, the threshold must name a
severity, the command must not be empty, and the time limit must not be negative.

The file is the one named explicitly, which must exist, or else `.infra-check.json`
in the working directory when there is one. It must hold a JSON object, from which
`format`, `fail_on` and `linter` (an object, or any false value for none) with
`command` and `timeout` are read; values are taken in their plain text form, and the
timeout as a number of seconds (a number, a truth value, or text that reads as a
number). A file that cannot be read or is not JSON is an error when it was named, and
is ignored otherwise; a file that is not UTF-8 is an error either way.

The environment gives `INFRA_CHECK_LINTER` and `INFRA_CHECK_LINTER_TIMEOUT`, each
used when not empty.

## Main definitions

* `ScanConfig` — a configuration and its defaults
* `Settings` — what one source sets
* `ConfigFailure` — why configuring failed
* `readConfigFile`, `readEnvironment` — the settings of the sources
* `loadConfig` — the checked configuration
-/

namespace IacLint.Config

open IacLint.Data IacLint.Files IacLint.Text

/-- The report formats. -/
def reportFormats : List String := ["text", "json", "markdown", "gha"]

/-- The name of the default configuration file. -/
def configFileName : String := ".infra-check.json"

/-- The variable naming the linter command. -/
def envLinterCommand : String := "INFRA_CHECK_LINTER"

/-- The variable giving the linter's time limit. -/
def envLinterTimeout : String := "INFRA_CHECK_LINTER_TIMEOUT"

/-- A scan configuration. The settings hold whatever value their source gave. -/
structure ScanConfig where
  reportFormat : Value := .str "text"
  failOn : Value := .str "error"
  linterCommand : Value := .str "puppet-lint"
  linterTimeout : Float := 60
  deriving Inhabited

/-- Why configuring failed: a configuration error, or a failure raised by a reader
with its kind and message. -/
inductive ConfigFailure where
  | config (message : String)
  | raised (kind message : String)
  deriving Inhabited

/-- What one source sets. -/
structure Settings where
  reportFormat : Option Value := none
  failOn : Option Value := none
  linterCommand : Option Value := none
  linterTimeout : Option Float := none
  deriving Inhabited

/-- A configuration with the settings of a source applied. -/
def ScanConfig.apply (c : ScanConfig) (s : Settings) : ScanConfig :=
  { reportFormat := s.reportFormat.getD c.reportFormat,
    failOn := s.failOn.getD c.failOn,
    linterCommand := s.linterCommand.getD c.linterCommand,
    linterTimeout := s.linterTimeout.getD c.linterTimeout }

/-- The severity a threshold value names: its plain form stripped and in lower case;
the complaint shows the value's literal form. -/
def thresholdOf (v : Value) : Except String Severity :=
  match Severity.ofThresholdWord? v.plain with
  | some s => .ok s
  | none => .error ("Unknown severity threshold: " ++ v.literal)

/-- The threshold of a configuration. -/
def ScanConfig.threshold (c : ScanConfig) : Except String Severity := thresholdOf c.failOn

/-- Whether a value counts as true: nonzero, not empty, not null. -/
def truthy : Value → Bool
  | .null => false
  | .bool b => b
  | .int n => n != 0
  | .float x => x != 0
  | .str s => !s.isEmpty
  | .list xs | .set xs | .tuple xs => !xs.isEmpty
  | .map kvs => !kvs.isEmpty
  | .bytes bs => !bs.isEmpty
  | _ => true

/-- The checked configuration. -/
def ScanConfig.validate (c : ScanConfig) : Except ConfigFailure ScanConfig := do
  let known := match c.reportFormat with
    | .str s => reportFormats.contains s
    | _ => false
  if !known then
    throw (.config ("Unknown report format " ++ c.reportFormat.literal ++ "; choose from " ++
      ", ".intercalate reportFormats))
  if let .error m := c.threshold then throw (.config m)
  if !truthy c.linterCommand then throw (.config "Linter command must not be empty")
  if c.linterTimeout < 0 then throw (.config "Linter timeout must be zero (disabled) or positive")
  return c

/-- The least integer whose nearest double is too large: `2^1024 - 2^970`. -/
def floatOverflowBound : Nat := Nat.pow 2 1024 - Nat.pow 2 970

/-- A value as a number of seconds, or the complaint naming its source. Integers too
large for a double overflow. -/
def parseTimeout (v : Value) (source : String) : Except ConfigFailure Float :=
  let complaint := ConfigFailure.config (source ++ " must be a number of seconds, got " ++ v.literal)
  match v with
  | .int n =>
    if n.natAbs ≥ floatOverflowBound then .error (.raised "OverflowError" "int too large to convert to float")
    else .ok (Float.ofInt n)
  | .float x => .ok x
  | .bool b => .ok (if b then 1 else 0)
  | .str s =>
    match Number.readFloat? s with
    | some x => .ok x
    | none => .error complaint
  | _ => .error complaint

/-- The settings of a configuration file's JSON value, or why it is refused. -/
def settingsOf (shown : String) (data : Value) : Except ConfigFailure Settings := do
  let .map kvs := data
    | throw (.config ("Config file " ++ shown ++ " must contain a JSON object"))
  let linter := (Entries.get? kvs "linter").getD .null
  let linter := if truthy linter then linter else .map []
  let .map lkvs := linter
    | throw (.config ("Config file " ++ shown ++ ": 'linter' must be an object"))
  let timeout ← match Entries.get? lkvs "timeout" with
    | some v => some <$> parseTimeout v (shown ++ ": linter.timeout")
    | none => pure none
  return { reportFormat := (Entries.get? kvs "format").map fun v => .str v.plain,
           failOn := (Entries.get? kvs "fail_on").map fun v => .str v.plain,
           linterCommand := (Entries.get? lkvs "command").map fun v => .str v.plain,
           linterTimeout := timeout }

/-- The settings of the configuration file: the one at `path`, which must exist, or
else the default file when it exists. -/
def readConfigFile (t : Tree) (path : Option String) : Except ConfigFailure Settings := do
  let explicit := path.isSome
  let shown := normalize (path.getD configFileName)
  let exists_ := match t.stat shown with
    | .ok _ => true
    | .error _ => false
  if !exists_ then
    if explicit then throw (.config ("Config file not found: " ++ shown)) else return {}
  match t.readBytes shown with
  | .error e =>
    if explicit then throw (.config ("Failed to read config file " ++ shown ++ ": " ++ e.message))
    else return {}
  | .ok bs =>
    if let some m := decodeComplaint? bs then throw (.raised "UnicodeDecodeError" m)
    match Json.parse (readText bs) with
    | .ok data => settingsOf shown data
    | .error (.raised kind message) => throw (.raised kind message)
    | .error .malformed =>
      if explicit then throw (.config ("Failed to read config file " ++ shown ++ ": " ++ parseDiagnostic))
      else return {}

/-- The settings of the environment. -/
def readEnvironment (env : List (String × String)) : Except ConfigFailure Settings := do
  let command := (env.lookup envLinterCommand).getD ""
  let timeout := (env.lookup envLinterTimeout).getD ""
  let t ← if timeout.isEmpty then pure none
    else some <$> parseTimeout (.str timeout) envLinterTimeout
  return { linterCommand := if command.isEmpty then none else some (.str command), linterTimeout := t }

/-- The checked configuration from the file, the environment and the overrides. -/
def loadConfig (t : Tree) (path : Option String) (env : List (String × String))
    (overrides : Settings) : Except ConfigFailure ScanConfig := do
  let fromFile ← readConfigFile t path
  let fromEnv ← readEnvironment env
  (((({} : ScanConfig).apply fromFile).apply fromEnv).apply overrides).validate

end IacLint.Config
