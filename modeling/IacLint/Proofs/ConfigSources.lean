import Mathlib
import IacLint.Config

/-!
# Where a configuration comes from

A configuration is loaded from up to three sources over the defaults: the configuration
file's JSON object, the environment and the overrides. Each setting takes its value from the
first source that sets it, in the order overrides, environment, file, defaults: an override
that is given, a variable that is not empty (for the linter's command and time limit only),
a key that the file's object holds. Values from the file are taken in their plain text form,
and time limits are read as `float` reads them.

The configuration is checked only once the sources are merged, so a value that a higher
source replaces is never checked. Each source is read in full before the merge, though, so a
time limit that cannot be read, or a `linter` entry that is neither false nor an object,
fails the load even when a higher source sets that setting.

Reading the file is cut in two: what is found at its path (`fileFound`), and what the load
makes of it (`readFound`). A named file must be found and read as JSON, or the load fails with
a configuration error; a default file that is missing, cannot be read or is not JSON counts as
absent. Three failures are not configuration errors and are raised as they are, whether the
file was named or not: bytes that are not UTF-8, an integer the JSON reader refuses, and a
time limit too large for a double. The JSON reader has no nesting limit, so the recursion
error a reader with a bounded stack raises on deeply nested text is not among them.

## Main definitions

* `FileFound`, `fileFound` — what is found at the configuration file's path
* `readFound` — the file's settings, or the failure, from what is found
* `FileObject` — the JSON object the configuration file holds (the empty one when none is read)
* `seconds?` — a value as a number of seconds, as `float` reads it
* `fileSettings`, `envSettings` — what the file's object and the environment set
* `firstSet` — the value of the first source that sets a setting
* `layered` — the configuration its sources give, setting by setting

## Main results

* `readConfigFile_eq` — reading the file is finding it, then reading what is found
* `readConfigFile_eq_ok_iff`, `readEnvironment_eq_ok_iff`, `validate_cases` — when each
  stage succeeds
* `readFound_error`, `readEnvironment_error` — how each stage fails
* `config_sources` — the loaded configuration, source by source
* `config_load_outcomes` — the ways a load ends
-/

namespace IacLint.Config

open IacLint.Data IacLint.Files IacLint.Text

/-! ## Reading the file -/

/-- The path the configuration file is read from: the named one, or the default one. -/
def configPath (path : Option String) : String := normalize (path.getD configFileName)

/-- What is found at the configuration file's path. -/
inductive FileFound where
  | missing
  | unreadable (e : OsError)
  | notUtf8 (complaint : String)
  | malformed
  | raised (kind message : String)
  | json (v : Value)

/-- What is found at a path: nothing, an entry that cannot be read, bytes that are not
UTF-8, text that is not JSON, text the JSON reader refuses with a failure of its own, or a
JSON value. -/
def fileFound (t : Tree) (p : String) : FileFound :=
  match t.stat p with
  | .error _ => .missing
  | .ok _ =>
    match t.readBytes p with
    | .error e => .unreadable e
    | .ok bs =>
      match decodeComplaint? bs with
      | some m => .notUtf8 m
      | none =>
        match Json.parse (readText bs) with
        | .ok v => .json v
        | .error .malformed => .malformed
        | .error (.raised kind message) => .raised kind message

/-- The failures to find a file or read it as JSON that make a default file count as
absent. -/
def FileFound.Ignorable : FileFound → Prop
  | .missing | .unreadable _ | .malformed => True
  | _ => False

/-- The object the configuration file holds: that of the file found at its path or, with no
file named, the empty object when the default file is missing, cannot be read or is not
JSON. -/
def FileObject (t : Tree) (path : Option String) (kvs : Entries) : Prop :=
  fileFound t (configPath path) = .json (.map kvs) ∨
    path = none ∧ kvs = [] ∧ (fileFound t (configPath path)).Ignorable

/-- The settings of the configuration file from what is found at its path, or why the load
fails. -/
def readFound (path : Option String) : FileFound → Except ConfigFailure Settings
  | .missing =>
    if path.isSome then .error (.config ("Config file not found: " ++ configPath path)) else .ok {}
  | .unreadable e =>
    if path.isSome then
      .error (.config ("Failed to read config file " ++ configPath path ++ ": " ++ e.message))
    else .ok {}
  | .notUtf8 m => .error (.raised "UnicodeDecodeError" m)
  | .malformed =>
    if path.isSome then
      .error (.config ("Failed to read config file " ++ configPath path ++ ": " ++ parseDiagnostic))
    else .ok {}
  | .raised kind message => .error (.raised kind message)
  | .json v => settingsOf (configPath path) v

theorem readConfigFile_eq (t : Tree) (path : Option String) :
    readConfigFile t path = readFound path (fileFound t (configPath path)) := by
  unfold readConfigFile
  simp only [bind, Except.bind, pure, Except.pure, throw, throwThe, MonadExceptOf.throw]
  unfold fileFound configPath
  -- follow the reading: the path's entry, its bytes, their decoding, then the JSON text
  cases t.stat (normalize (path.getD configFileName)) with
  | error e =>
    simp only [Bool.not_false, if_true]
    rfl
  | ok n =>
    simp only [Bool.not_true, Bool.false_eq_true, if_false]
    cases t.readBytes (normalize (path.getD configFileName)) with
    | error e => rfl
    | ok bs =>
      dsimp only
      cases decodeComplaint? bs with
      | some m => rfl
      | none =>
        dsimp only
        cases Json.parse (readText bs) with
        | ok v => rfl
        | error failure => cases failure <;> rfl

/-- A default file that is missing, cannot be read or is not JSON gives no settings. -/
theorem readFound_none_of_ignorable {found : FileFound} (ignorable : found.Ignorable) :
    readFound none found = .ok {} := by
  cases found <;> simp_all [FileFound.Ignorable, readFound]

/-- A named file that is missing, cannot be read or is not JSON fails the load with a
configuration error. -/
theorem readFound_some_of_ignorable {p : String} {found : FileFound} (ignorable : found.Ignorable) :
    ∃ m, readFound (some p) found = .error (.config m) := by
  cases found <;> simp_all [FileFound.Ignorable, readFound]

/-! ## Reading values -/

/-- A value as a number of seconds, as `float` reads it: nothing when it is refused or too
large for a double. -/
def seconds? (v : Value) : Option Float := (parseTimeout v "").toOption

/-- Whether a time limit is read, and as what, does not depend on the source a complaint
would name. -/
theorem parseTimeout_eq_ok_iff {v : Value} {source : String} {x : Float} :
    parseTimeout v source = .ok x ↔ seconds? v = some x := by
  unfold seconds? parseTimeout
  cases v
  case int n => by_cases large : floatOverflowBound ≤ n.natAbs <;> simp [large, Except.toOption]
  case str s => cases read : Number.readFloat? s <;> simp [read, Except.toOption]
  all_goals simp [Except.toOption]

/-- A time limit is refused with a configuration error, except an integer too large for a
double, which raises an overflow. -/
theorem parseTimeout_error {v : Value} {source : String} {e : ConfigFailure}
    (failed : parseTimeout v source = .error e) :
    (∃ m, e = .config m) ∨
      ∃ n, v = .int n ∧ floatOverflowBound ≤ n.natAbs ∧
        e = .raised "OverflowError" "int too large to convert to float" := by
  unfold parseTimeout at failed
  cases v
  case int n => by_cases large : floatOverflowBound ≤ n.natAbs <;> simp_all
  case str s =>
    cases read : Number.readFloat? s <;> simp_all
    exact ⟨_, failed.symm⟩
  all_goals simp_all
  -- what is left is a value refused with the complaint
  all_goals exact ⟨_, failed.symm⟩

/-! ## The environment -/

/-- A variable of the environment that is set and not empty. -/
def envText (env : List (String × String)) (name : String) : Option String :=
  (env.lookup name).filter fun s => !s.isEmpty

/-- What the environment sets: the linter's command and time limit, each from its variable
when that is set and not empty. -/
def envSettings (env : List (String × String)) : Settings where
  linterCommand := (envText env envLinterCommand).map .str
  linterTimeout := (envText env envLinterTimeout).bind fun s => seconds? (.str s)

/-- The environment's time limit, if it is set and not empty, can be read. -/
def EnvTimeoutRead (env : List (String × String)) : Prop :=
  ∀ x, envText env envLinterTimeout = some x → (seconds? (.str x)).isSome

/-- A variable as the environment is read: empty when unset, and used only when not empty. -/
theorem envText_eq (env : List (String × String)) (name : String) :
    envText env name =
      if ((env.lookup name).getD "").isEmpty then none else some ((env.lookup name).getD "") := by
  unfold envText
  cases env.lookup name with
  | none => simp
  | some x => by_cases empty : x.isEmpty <;> simp [Option.filter, empty]

theorem readEnvironment_eq_ok_iff {env : List (String × String)} {s : Settings} :
    readEnvironment env = .ok s ↔ EnvTimeoutRead env ∧ s = envSettings env := by
  rw [readEnvironment, EnvTimeoutRead, envSettings, envText_eq, envText_eq]
  simp only [bind, Except.bind, pure, Except.pure]
  generalize (env.lookup envLinterCommand).getD "" = command
  generalize (env.lookup envLinterTimeout).getD "" = timeout
  have named : Option.map Value.str (if command.isEmpty then none else some command) =
      if command.isEmpty then none else some (.str command) := by
    split <;> rfl
  rw [named]
  -- an empty time limit is not read; any other is read or fails the whole reading
  by_cases empty : timeout.isEmpty
  · simp only [empty, if_true, Except.ok.injEq, reduceCtorEq, false_implies, implies_true,
      true_and, Option.bind_none]
    exact eq_comm
  · cases parsed : parseTimeout (.str timeout) envLinterTimeout with
    | error e =>
      have refused : seconds? (.str timeout) = none := by
        cases read : seconds? (.str timeout) with
        | none => rfl
        | some x => simp [parseTimeout_eq_ok_iff.mpr read] at parsed
      simp only [empty, Bool.false_eq_true, if_false, Functor.map, Except.map,
        reduceCtorEq, false_iff, not_and]
      intro timeoutRead
      simpa [refused] using timeoutRead timeout rfl
    | ok y =>
      simp only [empty, Bool.false_eq_true, if_false, Functor.map, Except.map,
        Except.ok.injEq, Option.bind_some, parseTimeout_eq_ok_iff.mp parsed, Option.isSome_some,
        Option.some.injEq, forall_eq', true_and]
      exact eq_comm

theorem readEnvironment_error {env : List (String × String)} {e : ConfigFailure}
    (failed : readEnvironment env = .error e) : ∃ m, e = .config m := by
  rw [readEnvironment] at failed
  simp only [bind, Except.bind, pure, Except.pure] at failed
  generalize (env.lookup envLinterTimeout).getD "" = timeout at failed
  by_cases empty : timeout.isEmpty
  · simp [empty] at failed
  · cases parsed : parseTimeout (.str timeout) envLinterTimeout with
    | ok y => simp [empty, parsed, Functor.map, Except.map] at failed
    | error refusal =>
      simp only [empty, parsed, Bool.false_eq_true, if_false, Functor.map, Except.map,
        Except.error.injEq] at failed
      subst failed
      -- a text is never an integer too large for a double
      rcases parseTimeout_error parsed with complaint | ⟨n, text, -⟩
      · exact complaint
      · cases text

/-! ## The file's object -/

/-- A key of the file's object: its value in plain text form. -/
def fileText (kvs : Entries) (key : String) : Option Value :=
  (Entries.get? kvs key).map fun v => .str v.plain

/-- The entries of the file's `linter` object: none when `linter` is missing, false or not
an object. -/
def linterEntries (kvs : Entries) : Entries :=
  match Entries.get? kvs "linter" with
  | some (.map lkvs) => lkvs
  | _ => []

/-- The file's `linter` entry, when it is true, is an object. -/
def LinterObject (kvs : Entries) : Prop :=
  ∀ v, Entries.get? kvs "linter" = some v → truthy v = true → ∃ lkvs, v = .map lkvs

/-- What the file's object sets. -/
def fileSettings (kvs : Entries) : Settings where
  reportFormat := fileText kvs "format"
  failOn := fileText kvs "fail_on"
  linterCommand := fileText (linterEntries kvs) "command"
  linterTimeout := (Entries.get? (linterEntries kvs) "timeout").bind seconds?

/-- The file's time limit, if it has one, can be read. -/
def FileTimeoutRead (kvs : Entries) : Prop :=
  ∀ x, Entries.get? (linterEntries kvs) "timeout" = some x → (seconds? x).isSome

theorem fileSettings_nil : fileSettings [] = {} := rfl

theorem linterObject_nil : LinterObject [] := by
  intro v missing
  cases missing

/-- A `linter` entry that is false or an object is read as the object of its entries. -/
theorem linterValue_of_object {kvs : Entries} (object : LinterObject kvs) :
    (if truthy ((Entries.get? kvs "linter").getD .null) = true then
        (Entries.get? kvs "linter").getD .null
      else .map []) = .map (linterEntries kvs) := by
  unfold linterEntries
  cases entry : Entries.get? kvs "linter" with
  | none => simp [truthy]
  | some v =>
    by_cases true_ : truthy v = true
    · obtain ⟨lkvs, rfl⟩ := object v entry true_
      simp [true_]
    · -- a false object has no entries
      cases v <;> simp_all [truthy]

/-- A true `linter` entry that is not an object is read as itself. -/
theorem linterValue_of_not_object {kvs : Entries} (notObject : ¬LinterObject kvs)
    (lkvs : Entries) :
    (if truthy ((Entries.get? kvs "linter").getD .null) = true then
        (Entries.get? kvs "linter").getD .null
      else .map []) ≠ .map lkvs := by
  simp only [LinterObject, not_forall, not_exists] at notObject
  obtain ⟨v, entry, true_, other⟩ := notObject
  simp [entry, true_, other]

theorem settingsOf_without_timeout {shown : String} {kvs : Entries} (object : LinterObject kvs)
    (absent : Entries.get? (linterEntries kvs) "timeout" = none) :
    settingsOf shown (.map kvs) = .ok (fileSettings kvs) := by
  unfold settingsOf
  simp only [bind, Except.bind, pure, Except.pure]
  rw [linterValue_of_object object]
  simp [absent, fileSettings, fileText]

theorem settingsOf_with_timeout {shown : String} {kvs : Entries} {v : Value}
    (object : LinterObject kvs) (given : Entries.get? (linterEntries kvs) "timeout" = some v) :
    settingsOf shown (.map kvs) =
      (fun x => { fileSettings kvs with linterTimeout := some x }) <$>
        parseTimeout v (shown ++ ": linter.timeout") := by
  unfold settingsOf
  simp only [bind, Except.bind, pure, Except.pure]
  rw [linterValue_of_object object]
  simp only [given, Functor.map, Except.map]
  cases parseTimeout v (shown ++ ": linter.timeout") <;> simp [fileSettings, fileText]

theorem settingsOf_of_not_object {shown : String} {kvs : Entries} (notObject : ¬LinterObject kvs) :
    ∃ m, settingsOf shown (.map kvs) = .error (.config m) := by
  unfold settingsOf
  simp only [bind, Except.bind, pure, Except.pure, throw, throwThe, MonadExceptOf.throw]
  split
  · rename_i lkvs read
    exact absurd read (linterValue_of_not_object notObject lkvs)
  · exact ⟨_, rfl⟩

theorem settingsOf_of_not_map {shown : String} {v : Value} (other : ∀ kvs, v ≠ .map kvs) :
    ∃ m, settingsOf shown v = .error (.config m) := by
  unfold settingsOf
  cases v
  case map kvs => exact absurd rfl (other kvs)
  all_goals exact ⟨_, rfl⟩

/-- A time limit that is given, and read, is the one the settings hold. -/
theorem fileSettings_of_timeout {kvs : Entries} {v : Value} {x : Float}
    (given : Entries.get? (linterEntries kvs) "timeout" = some v) (read : seconds? v = some x) :
    { fileSettings kvs with linterTimeout := some x } = fileSettings kvs := by
  simp [fileSettings, given, read]

/-- A file's value gives settings exactly when it is an object whose `linter` entry is false
or an object and whose time limit, if any, can be read; they are the settings it holds. -/
theorem settingsOf_eq_ok_iff {shown : String} {v : Value} {s : Settings} :
    settingsOf shown v = .ok s ↔
      ∃ kvs, v = .map kvs ∧ LinterObject kvs ∧ FileTimeoutRead kvs ∧ s = fileSettings kvs := by
  unfold FileTimeoutRead
  by_cases map : ∃ kvs, v = .map kvs
  · obtain ⟨kvs, rfl⟩ := map
    by_cases object : LinterObject kvs
    · cases timeout : Entries.get? (linterEntries kvs) "timeout" with
      | none =>
        rw [settingsOf_without_timeout object timeout]
        simp only [Except.ok.injEq, Value.map.injEq, exists_eq_left', timeout, reduceCtorEq,
          false_implies, implies_true, object, true_and]
        exact eq_comm
      | some x =>
        rw [settingsOf_with_timeout object timeout]
        cases parsed : parseTimeout x (shown ++ ": linter.timeout") with
        | error e =>
          -- a time limit that cannot be read fails the reading
          have refused : seconds? x = none := by
            cases read : seconds? x with
            | none => rfl
            | some y => simp [parseTimeout_eq_ok_iff.mpr read] at parsed
          simp [Functor.map, Except.map, refused, timeout]
        | ok y =>
          simp only [Functor.map, Except.map, Except.ok.injEq, Value.map.injEq, exists_eq_left',
            timeout, Option.some.injEq, forall_eq', object, true_and,
            fileSettings_of_timeout timeout (parseTimeout_eq_ok_iff.mp parsed),
            parseTimeout_eq_ok_iff.mp parsed, Option.isSome_some]
          exact eq_comm
    · obtain ⟨m, failed⟩ := @settingsOf_of_not_object shown kvs object
      simp [failed, object]
  · obtain ⟨m, failed⟩ := @settingsOf_of_not_map shown v fun kvs same => map ⟨kvs, same⟩
    simp only [failed, reduceCtorEq, false_iff, not_exists, not_and]
    exact fun kvs same => absurd ⟨kvs, same⟩ map

/-- Reading a file's value fails with a configuration error, or with the overflow of an
integer time limit too large for a double. -/
theorem settingsOf_error {shown : String} {v : Value} {e : ConfigFailure}
    (failed : settingsOf shown v = .error e) :
    (∃ m, e = .config m) ∨
      ∃ kvs n, v = .map kvs ∧ Entries.get? (linterEntries kvs) "timeout" = some (.int n) ∧
        floatOverflowBound ≤ n.natAbs ∧
        e = .raised "OverflowError" "int too large to convert to float" := by
  by_cases map : ∃ kvs, v = .map kvs
  · obtain ⟨kvs, rfl⟩ := map
    by_cases object : LinterObject kvs
    · cases timeout : Entries.get? (linterEntries kvs) "timeout" with
      | none => simp [settingsOf_without_timeout object timeout] at failed
      | some x =>
        rw [settingsOf_with_timeout object timeout] at failed
        cases parsed : parseTimeout x (shown ++ ": linter.timeout") with
        | ok y => simp [parsed, Functor.map, Except.map] at failed
        | error refusal =>
          simp only [parsed, Functor.map, Except.map, Except.error.injEq] at failed
          subst failed
          rcases parseTimeout_error parsed with complaint | ⟨n, rfl, large, overflow⟩
          · exact .inl complaint
          · exact .inr ⟨kvs, n, rfl, timeout, large, overflow⟩
    · obtain ⟨m, refused⟩ := @settingsOf_of_not_object shown kvs object
      rw [refused, Except.error.injEq] at failed
      exact .inl ⟨m, failed.symm⟩
  · obtain ⟨m, refused⟩ := @settingsOf_of_not_map shown v fun kvs same => map ⟨kvs, same⟩
    rw [refused, Except.error.injEq] at failed
    exact .inl ⟨m, failed.symm⟩

theorem readFound_eq_ok_iff {path : Option String} {found : FileFound} {s : Settings} :
    readFound path found = .ok s ↔
      (∃ kvs, found = .json (.map kvs) ∧ LinterObject kvs ∧ FileTimeoutRead kvs ∧
          s = fileSettings kvs) ∨
        path = none ∧ found.Ignorable ∧ s = {} := by
  cases found
  case json v => simp [readFound, settingsOf_eq_ok_iff, FileFound.Ignorable]
  case notUtf8 | raised => simp [readFound, FileFound.Ignorable]
  -- what makes a default file count as absent fails a named one
  all_goals cases path <;> simp [readFound, FileFound.Ignorable, @eq_comm _ s]

/-- How reading the file fails: with a configuration error, or with what decoding, the JSON
reader or reading an integer time limit raised. -/
theorem readFound_error {path : Option String} {found : FileFound} {e : ConfigFailure}
    (failed : readFound path found = .error e) :
    (∃ m, e = .config m) ∨
      (∃ m, found = .notUtf8 m ∧ e = .raised "UnicodeDecodeError" m) ∨
      (∃ kind m, found = .raised kind m ∧ e = .raised kind m) ∨
      ∃ kvs n, found = .json (.map kvs) ∧
        Entries.get? (linterEntries kvs) "timeout" = some (.int n) ∧
        floatOverflowBound ≤ n.natAbs ∧
        e = .raised "OverflowError" "int too large to convert to float" := by
  cases found
  case json v =>
    rcases settingsOf_error failed with complaint | ⟨kvs, n, rfl, given, large, overflow⟩
    · exact .inl complaint
    · exact .inr (.inr (.inr ⟨kvs, n, rfl, given, large, overflow⟩))
  case notUtf8 m => exact .inr (.inl ⟨m, rfl, (Except.error.inj failed).symm⟩)
  case raised kind m => exact .inr (.inr (.inl ⟨kind, m, rfl, (Except.error.inj failed).symm⟩))
  -- a file that is missing, cannot be read or is not JSON fails only when it is named
  all_goals cases path <;> simp_all [readFound]
  all_goals exact ⟨_, failed.symm⟩

theorem readConfigFile_eq_ok_iff {t : Tree} {path : Option String} {s : Settings} :
    readConfigFile t path = .ok s ↔
      ∃ kvs, FileObject t path kvs ∧ LinterObject kvs ∧ FileTimeoutRead kvs ∧
        s = fileSettings kvs := by
  rw [readConfigFile_eq, readFound_eq_ok_iff]
  constructor
  · rintro (⟨kvs, found, object, timeout, rfl⟩ | ⟨rfl, ignorable, rfl⟩)
    · exact ⟨kvs, .inl found, object, timeout, rfl⟩
    · -- an absent file holds the empty object
      refine ⟨[], .inr ⟨rfl, rfl, ignorable⟩, linterObject_nil, fun x missing => ?_,
        fileSettings_nil⟩
      simp [linterEntries, Entries.get?, Entries.lookup] at missing
  · rintro ⟨kvs, found | ⟨rfl, rfl, ignorable⟩, object, timeout, rfl⟩
    · exact .inl ⟨kvs, found, object, timeout, rfl⟩
    · exact .inr ⟨rfl, ignorable, fileSettings_nil⟩

/-! ## Checking and merging -/

/-- Checking a configuration gives it back unchanged, or fails with a configuration error. -/
theorem validate_cases (c : ScanConfig) :
    c.validate = .ok c ∨ ∃ m, c.validate = .error (.config m) := by
  simp only [ScanConfig.validate, bind, Except.bind, pure, Except.pure, throw, throwThe,
    MonadExceptOf.throw]
  -- each check either throws its configuration error or passes on to the next
  repeat' split
  all_goals simp

theorem validate_eq_ok {c c' : ScanConfig} (checked : c.validate = .ok c') :
    c' = c ∧ c.validate = .ok c := by
  rcases validate_cases c with valid | ⟨m, refused⟩
  · rw [valid, Except.ok.injEq] at checked
    exact ⟨checked.symm, valid⟩
  · rw [refused] at checked
    cases checked

/-- The value of a setting: that of the first source that sets it, else the default. -/
def firstSet {α : Type} (sources : List (Option α)) (default : α) : α :=
  (sources.findSome? id).getD default

@[simp] theorem firstSet_nil {α : Type} (default : α) : firstSet [] default = default := rfl

@[simp] theorem firstSet_cons {α : Type} (source : Option α) (rest : List (Option α))
    (default : α) :
    firstSet (source :: rest) default = source.getD (firstSet rest default) := by
  cases source <;> rfl

/-- The configuration its sources give, setting by setting: an override that is given, then
for the linter's command and time limit the environment, then the file's object, then the
default. -/
def layered (kvs : Entries) (env : List (String × String)) (ov : Settings) : ScanConfig where
  reportFormat := firstSet [ov.reportFormat, fileText kvs "format"] ({} : ScanConfig).reportFormat
  failOn := firstSet [ov.failOn, fileText kvs "fail_on"] ({} : ScanConfig).failOn
  linterCommand :=
    firstSet [ov.linterCommand, (envText env envLinterCommand).map .str,
      fileText (linterEntries kvs) "command"] ({} : ScanConfig).linterCommand
  linterTimeout :=
    firstSet [ov.linterTimeout, (envText env envLinterTimeout).bind fun x => seconds? (.str x),
      (Entries.get? (linterEntries kvs) "timeout").bind seconds?] ({} : ScanConfig).linterTimeout

/-- Applying the sources one over the other, from the file up to the overrides, gives each
setting from the first source that sets it. -/
theorem apply_sources (kvs : Entries) (env : List (String × String)) (ov : Settings) :
    ((({} : ScanConfig).apply (fileSettings kvs)).apply (envSettings env)).apply ov =
      layered kvs env ov := by
  simp [ScanConfig.apply, layered, fileSettings, envSettings]

/-! ## Loading -/

theorem loadConfig_eq (t : Tree) (path : Option String) (env : List (String × String))
    (ov : Settings) :
    loadConfig t path env ov =
      (readConfigFile t path).bind fun fromFile => (readEnvironment env).bind fun fromEnv =>
        (((({} : ScanConfig).apply fromFile).apply fromEnv).apply ov).validate := rfl

/-- The configuration a load gives, when it gives one: each setting from the first source
that sets it (an override that is given; for the linter's command and time limit, an
environment variable that is not empty; a key of the file's object; the default), the file's
values in their plain text form and time limits read as `float` reads them, the whole passing
its check. And it gives one exactly then: the check sees only the merged settings, so a bad
value that a higher source replaces is never checked, while a time limit of the file or the
environment that cannot be read, or a true `linter` entry that is not an object, fails the
load whatever the higher sources set. -/
theorem config_sources (t : Tree) (path : Option String) (env : List (String × String))
    (ov : Settings) (c : ScanConfig) :
    loadConfig t path env ov = .ok c ↔
      ∃ kvs, FileObject t path kvs ∧ LinterObject kvs ∧ FileTimeoutRead kvs ∧
        EnvTimeoutRead env ∧ c = layered kvs env ov ∧ c.validate = .ok c := by
  rw [loadConfig_eq]
  constructor
  · intro loaded
    cases file : readConfigFile t path with
    | error e => simp [file, Except.bind] at loaded
    | ok fromFile =>
      cases environment : readEnvironment env with
      | error e => simp [file, environment, Except.bind] at loaded
      | ok fromEnv =>
        simp only [file, environment, Except.bind] at loaded
        obtain ⟨rfl, valid⟩ := validate_eq_ok loaded
        obtain ⟨kvs, object, linter, fileTimeout, rfl⟩ := readConfigFile_eq_ok_iff.mp file
        obtain ⟨envTimeout, rfl⟩ := readEnvironment_eq_ok_iff.mp environment
        rw [apply_sources] at valid ⊢
        exact ⟨kvs, object, linter, fileTimeout, envTimeout, rfl, valid⟩
  · rintro ⟨kvs, object, linter, fileTimeout, envTimeout, rfl, valid⟩
    rw [readConfigFile_eq_ok_iff.mpr ⟨kvs, object, linter, fileTimeout, rfl⟩,
      readEnvironment_eq_ok_iff.mpr ⟨envTimeout, rfl⟩]
    simp only [Except.bind]
    rw [apply_sources, valid]

/-- How a load ends: with a configuration that passes its check, with a configuration error,
or with a failure raised while reading the file, which is bytes that are not UTF-8, a JSON
text the reader refuses with a failure of its own, or an integer time limit too large for a
double. -/
theorem loadConfig_ends (t : Tree) (path : Option String) (env : List (String × String))
    (ov : Settings) :
    (∃ c, loadConfig t path env ov = .ok c ∧ c.validate = .ok c) ∨
      (∃ m, loadConfig t path env ov = .error (.config m)) ∨
      (∃ m, fileFound t (configPath path) = .notUtf8 m ∧
        loadConfig t path env ov = .error (.raised "UnicodeDecodeError" m)) ∨
      (∃ kind m, fileFound t (configPath path) = .raised kind m ∧
        loadConfig t path env ov = .error (.raised kind m)) ∨
      ∃ kvs n, fileFound t (configPath path) = .json (.map kvs) ∧
        Entries.get? (linterEntries kvs) "timeout" = some (.int n) ∧
        floatOverflowBound ≤ n.natAbs ∧
        loadConfig t path env ov =
          .error (.raised "OverflowError" "int too large to convert to float") := by
  rw [loadConfig_eq]
  cases file : readConfigFile t path with
  | error e =>
    -- the file's failure ends the load as it is
    simp only [Except.bind]
    rw [readConfigFile_eq] at file
    rcases readFound_error file with ⟨m, rfl⟩ | ⟨m, found, rfl⟩ | ⟨kind, m, found, rfl⟩ |
        ⟨kvs, n, found, given, large, rfl⟩
    · exact .inr (.inl ⟨m, rfl⟩)
    · exact .inr (.inr (.inl ⟨m, found, rfl⟩))
    · exact .inr (.inr (.inr (.inl ⟨kind, m, found, rfl⟩)))
    · exact .inr (.inr (.inr (.inr ⟨kvs, n, found, given, large, rfl⟩)))
  | ok fromFile =>
    cases environment : readEnvironment env with
    | error e =>
      obtain ⟨m, rfl⟩ := readEnvironment_error environment
      exact .inr (.inl ⟨m, rfl⟩)
    | ok fromEnv =>
      simp only [Except.bind]
      rcases validate_cases (((({} : ScanConfig).apply fromFile).apply fromEnv).apply ov) with
        valid | ⟨m, refused⟩
      · exact .inl ⟨_, valid, valid⟩
      · exact .inr (.inl ⟨m, refused⟩)

/-- A named file that is missing, cannot be read or is not JSON fails the load with a
configuration error. -/
theorem loadConfig_named_unread {t : Tree} {p : String} (env : List (String × String))
    (ov : Settings) (unread : (fileFound t (configPath (some p))).Ignorable) :
    ∃ m, loadConfig t (some p) env ov = .error (.config m) := by
  obtain ⟨m, failed⟩ := readFound_some_of_ignorable unread
  exact ⟨m, by rw [loadConfig_eq, readConfigFile_eq, failed]; rfl⟩

/-- A default file that is missing, cannot be read or is not JSON is passed over: the load
goes as it goes in a tree without the file. -/
theorem loadConfig_default_unread {t t' : Tree} (env : List (String × String)) (ov : Settings)
    (unread : (fileFound t (configPath none)).Ignorable)
    (absent : fileFound t' (configPath none) = .missing) :
    loadConfig t none env ov = loadConfig t' none env ov := by
  have passed : readConfigFile t none = readConfigFile t' none := by
    rw [readConfigFile_eq, readConfigFile_eq, readFound_none_of_ignorable unread, absent,
      @readFound_none_of_ignorable FileFound.missing trivial]
  rw [loadConfig_eq, loadConfig_eq, passed]

/-- How a load ends, and how the configuration file decides it: the load gives a
configuration that passes its check or fails with a configuration error, except for three
failures raised while reading the file, named or default (bytes that are not UTF-8, a JSON
text the reader refuses with a failure of its own, an integer time limit too large for a
double); a named file that is missing, cannot be read or is not JSON is a configuration
error; and a default file that is missing, cannot be read or is not JSON is passed over as
if it were absent. -/
theorem config_load_outcomes (t : Tree) (path : Option String) (env : List (String × String))
    (ov : Settings) :
    ((∃ c, loadConfig t path env ov = .ok c ∧ c.validate = .ok c) ∨
      (∃ m, loadConfig t path env ov = .error (.config m)) ∨
      (∃ m, fileFound t (configPath path) = .notUtf8 m ∧
        loadConfig t path env ov = .error (.raised "UnicodeDecodeError" m)) ∨
      (∃ kind m, fileFound t (configPath path) = .raised kind m ∧
        loadConfig t path env ov = .error (.raised kind m)) ∨
      ∃ kvs n, fileFound t (configPath path) = .json (.map kvs) ∧
        Entries.get? (linterEntries kvs) "timeout" = some (.int n) ∧
        floatOverflowBound ≤ n.natAbs ∧
        loadConfig t path env ov =
          .error (.raised "OverflowError" "int too large to convert to float")) ∧
    (∀ p, path = some p → (fileFound t (configPath path)).Ignorable →
      ∃ m, loadConfig t path env ov = .error (.config m)) ∧
    (path = none → (fileFound t (configPath path)).Ignorable →
      ∀ t' : Tree, fileFound t' (configPath none) = .missing →
        loadConfig t path env ov = loadConfig t' none env ov) := by
  refine ⟨loadConfig_ends t path env ov, ?_, ?_⟩
  · rintro p rfl unread
    exact loadConfig_named_unread env ov unread
  · rintro rfl unread t' absent
    exact loadConfig_default_unread env ov unread absent

/-- A default file that is not UTF-8 is not passed over as one that cannot be read is: the
load raises the decoding failure. -/
theorem undecodable_default_file_raises :
    loadConfig ⟨[([".infra-check.json"], .file [0xff] false)]⟩ none [] {} =
      .error (.raised "UnicodeDecodeError"
        "'utf-8' codec can't decode byte 0xff in position 0: invalid start byte") := by
  have entry : splitOnChar ".infra-check.json" '/' = [".infra-check.json"] := by decide
  have shown : configPath none = ".infra-check.json" := by decide
  have complaint : decodeComplaint? [0xff] =
      some "'utf-8' codec can't decode byte 0xff in position 0: invalid start byte" := by
    rw [decodeComplaint?, firstIllFormed]
    decide
  have found : fileFound ⟨[([".infra-check.json"], .file [0xff] false)]⟩ (configPath none) =
      .notUtf8 "'utf-8' codec can't decode byte 0xff in position 0: invalid start byte" := by
    simp [fileFound, shown, Tree.readBytes, Tree.stat, Tree.locate, entry, Tree.locateFrom,
      Tree.find?, complaint]
  rw [loadConfig_eq, readConfigFile_eq, found]
  rfl

end IacLint.Config
