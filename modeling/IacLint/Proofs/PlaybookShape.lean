import Mathlib
import IacLint.Proofs.DocumentBlocks
import IacLint.Ansible.Playbook

/-!
# The shape of a playbook

A loaded document reads as a playbook when it is empty (no plays), or a list of plays, each
a mapping whose `vars` is null or a mapping and whose `tasks` is null or a list of
mappings. The reading stops at the first thing wrong, going through the plays in order and
through each play in the order of its checks: the play itself, its `vars`, its `tasks`, then
its tasks one by one, and last the keys of its `vars`.

Keys are written as text, so a key that cannot be written is wrong too: one holding an
integer of more digits than text conversion allows. Such a key in a task stops the reading
at that task, and such a key in `vars` stops it after all the tasks of the play.

When nothing is wrong, each play keeps its hosts (null when missing), its `vars` as text
keyed, and one task for each mapping of its `tasks`. A mapping is text keyed by writing each
key as text, keeping it at its first place with its last value, so `1` and `"1"` become one
key.

## Main definitions

* `faultOr` — an error when there is a fault, else a value
* `textKeyed` — a mapping with its keys written as text
* `playFault` — the first thing wrong with a play
* `playOf`, `playbookOf` — what a play and a document read as

## Main results

* `mapM_faultOr` — a run over a list stops at the first fault
* `ofEntries_eq` — a task is its mapping, text keyed
* `buildPlay_eq` — a play stops at its first fault
* `plays_of_document` — the plays of a loaded document
-/

namespace IacLint

namespace Ansible

open IacLint.Data

/-! ## Runs that stop at a fault -/

/-- The error `fault` when there is one, else `value`. -/
def faultOr {ε β : Type} (fault : Option ε) (value : β) : Except ε β :=
  match fault with
  | some e => .error e
  | none => .ok value

section FaultOr

variable {ε α β : Type}

@[simp] theorem faultOr_none (value : β) : faultOr (none : Option ε) value = .ok value := rfl

@[simp] theorem faultOr_some (e : ε) (value : β) : faultOr (some e) value = .error e := rfl

@[simp] theorem faultOr_none_bind {γ : Type} (value : β) (k : β → Except ε γ) :
    faultOr none value >>= k = k value := rfl

@[simp] theorem faultOr_some_bind {γ : Type} (e : ε) (value : β) (k : β → Except ε γ) :
    faultOr (some e) value >>= k = .error e := rfl

/-- Running over a list stops at the first element with a fault, and otherwise gives every
element's value in order. -/
theorem mapM_faultOr {f : α → Except ε β} {fault : α → Option ε} {value : α → β}
    {l : List α}
    (each : ∀ x ∈ l, f x = faultOr (fault x) (value x)) :
    l.mapM f = faultOr (l.findSome? fault) (l.map value) := by
  induction l with
  | nil => rfl
  | cons x l ih =>
    have rest := ih fun y member => each y (List.mem_cons_of_mem x member)
    rw [List.mapM_cons, each x List.mem_cons_self, List.findSome?_cons]
    cases fault x with
    | some e => rfl
    | none =>
      cases found : l.findSome? fault <;> simp [rest, found, bind, Except.bind, pure, Except.pure]

end FaultOr

/-! ## Keys written as text -/

/-- The complaint about a key that cannot be written as text. -/
def unwritableKey : PlaybookError := .raised "ValueError" Number.writeLimitComplaint

theorem keyText_eq (k : Value) :
    keyText k = if k.writable then .ok k.plain else .error unwritableKey := by
  unfold keyText Value.plainText
  split <;> rfl

/-- The fault of a mapping whose keys are written as text: a key that cannot be. -/
def keysFault (kvs : Entries) : Option PlaybookError :=
  if kvs.all (·.1.writable) then none else some unwritableKey

/-- A mapping with its keys written as text: each key at the place it first appears, with
the value it has last. -/
def textKeyed (kvs : Entries) : List (String × Value) :=
  Terraform.assigned (kvs.map fun kv => (kv.1.plain, kv.2))

/-- One key written as text into a mapping being built: a key already there takes the new
value in place, a new key goes last. -/
theorem insertStep_assigned {ps : List (String × Value)} {k : String} (v : Value) :
    (if (Terraform.assigned ps).any (·.1 == k) then
        (Terraform.assigned ps).map fun e => if e.1 == k then (k, v) else e
      else Terraform.assigned ps ++ [(k, v)]) = Terraform.assigned (ps ++ [(k, v)]) := by
  have present : (Terraform.assigned ps).any (·.1 == k) = true ↔ k ∈ ps.map Prod.fst := by
    rw [← List.mem_eraseDups, ← Terraform.keys_assigned]
    simp
  by_cases seen : k ∈ ps.map Prod.fst
  · rw [if_pos (present.mpr seen), Terraform.assigned_snoc_of_mem v seen]
    refine List.map_congr_left fun e _ => ?_
    by_cases same : e.1 = k <;> simp [same]
  · rw [if_neg (mt present.mp seen), Terraform.assigned_snoc_of_not_mem v seen]

/-- Writing the keys of a mapping one at a time stops at the first key that cannot be
written, and otherwise text keys the whole mapping. -/
theorem foldlM_textKeyed
    {step : List (String × Value) → Value × Value →
      Except PlaybookError (List (String × Value))}
    (stepEq : ∀ ps kv, step (Terraform.assigned ps) kv =
      if kv.1.writable then .ok (Terraform.assigned (ps ++ [(kv.1.plain, kv.2)]))
      else .error unwritableKey)
    (kvs : Entries) {acc ps : List (String × Value)} (built : acc = Terraform.assigned ps) :
    kvs.foldlM step acc =
      faultOr (keysFault kvs)
        (Terraform.assigned (ps ++ kvs.map fun kv => (kv.1.plain, kv.2))) := by
  induction kvs generalizing acc ps with
  | nil => simp [keysFault, pure, Except.pure, built]
  | cons kv kvs ih =>
    rw [List.foldlM_cons, built, stepEq]
    by_cases writable : kv.1.writable
    · simp only [writable, if_true, bind, Except.bind]
      rw [ih rfl, keysFault, keysFault, List.all_cons, writable, Bool.true_and]
      simp
    · simp [writable, keysFault, bind, Except.bind]

/-- A task is its mapping, text keyed, unless a key cannot be written as text. -/
theorem ofEntries_eq (kvs : Entries) :
    Task.ofEntries kvs = faultOr (keysFault kvs) ⟨textKeyed kvs⟩ := by
  unfold Task.ofEntries
  have start : ([] : List (String × Value)) = Terraform.assigned [] := rfl
  rw [foldlM_textKeyed ?stepEq kvs start]
  · cases keysFault kvs <;> rfl
  · intro ps kv
    rw [keyText_eq]
    by_cases writable : kv.1.writable
    · simp only [writable, if_true, bind, Except.bind, pure, Except.pure]
      rw [← insertStep_assigned kv.2, apply_ite Except.ok]
    · simp [writable, bind, Except.bind]

/-! ## What is wrong with a play -/

/-- The entries of a `vars` value: a mapping's, and none for anything else. -/
def entriesIn : Option Value → Entries
  | some (.map kvs) => kvs
  | _ => []

/-- The elements of a `tasks` value: a list's, and none for anything else. -/
def itemsIn : Option Value → List Value
  | some (.list ts) => ts
  | _ => []

/-- The fault of the `vars` of the play at `place`: anything but nothing, null or a
mapping. -/
def varsFault (place : String) : Option Value → Option PlaybookError
  | none | some .null | some (.map _) => none
  | some v => some (.shape (place ++ " 'vars' is " ++ kindPhrase v ++ ", expected a mapping"))

/-- The fault of the `tasks` of the play at `place`: anything but nothing, null or a list. -/
def tasksFault (place : String) : Option Value → Option PlaybookError
  | none | some .null | some (.list _) => none
  | some v => some (.shape (place ++ " 'tasks' is " ++ kindPhrase v ++ ", expected a list"))

/-- The fault of the task at place `j` (from 1) of the play at `place`: it is no mapping, or
one of its keys cannot be written as text. -/
def taskFault (place : String) (j : Nat) : Value → Option PlaybookError
  | .map kvs => keysFault kvs
  | v => some (.shape (place ++ " task #" ++ toString j ++ " is " ++ kindPhrase v ++
      ", expected a mapping"))

/-- The first fault of the play at place `i` (from 1), in the order the reading looks: the
play is no mapping; its `vars` is neither null nor a mapping; its `tasks` is neither null
nor a list; a task is at fault, the first such; a key of its `vars` cannot be written as
text. -/
def playFault (i : Nat) : Value → Option PlaybookError
  | .map kvs =>
    let place := "play #" ++ toString i
    varsFault place (Entries.get? kvs "vars") <|> tasksFault place (Entries.get? kvs "tasks") <|>
      ((itemsIn (Entries.get? kvs "tasks")).zipIdx 1).findSome? (fun x => taskFault place x.2 x.1) <|>
      keysFault (entriesIn (Entries.get? kvs "vars"))
  | v => some (.shape ("play #" ++ toString i ++ " is " ++ kindPhrase v ++ ", expected a mapping"))

/-- The task a mapping reads as. -/
def taskOf : Value → Task
  | .map kvs => ⟨textKeyed kvs⟩
  | _ => ⟨[]⟩

/-- A task reads as the entries of its mapping, text keyed. -/
theorem taskOf_fields (t : Value) : (taskOf t).fields = textKeyed (entriesIn (some t)) := by
  cases t <;> rfl

/-- The play an entry reads as when nothing is wrong with it: its hosts, null when missing,
its `vars` text keyed, and a task for each element of its `tasks`. -/
def playOf : Value → Play
  | .map kvs =>
    { hosts := (Entries.get? kvs "hosts").getD .null
      vars := textKeyed (entriesIn (Entries.get? kvs "vars"))
      tasks := (itemsIn (Entries.get? kvs "tasks")).map taskOf }
  | _ => default

theorem varsEntries_eq (place : String) (o : Option Value) :
    varsEntries place o = faultOr (varsFault place o) (entriesIn o) := by
  rcases o with _ | v
  · rfl
  · cases v <;> rfl

theorem taskItems_eq (place : String) (o : Option Value) :
    taskItems place o = faultOr (tasksFault place o) (itemsIn o) := by
  rcases o with _ | v
  · rfl
  · cases v <;> rfl

theorem taskAt_eq (place : String) (t : Value) (j : Nat) :
    taskAt place t j = faultOr (taskFault place j t) (taskOf t) := by
  cases t with
  | map kvs => exact ofEntries_eq kvs
  | _ => rfl

/-- Reading the elements of a list, each with its place, as its element alone says. -/
theorem map_zipIdx_fst {α β : Type} (f : α → β) (l : List α) (n : Nat) :
    (l.zipIdx n).map (fun x => f x.1) = l.map f := by
  conv_rhs => rw [← List.zipIdx_map_fst n l, List.map_map]
  rfl

/-- The tasks of a play stop at the first task at fault. -/
theorem mapM_taskAt (place : String) (ts : List Value) :
    (ts.zipIdx 1).mapM (fun x => taskAt place x.1 x.2) =
      faultOr ((ts.zipIdx 1).findSome? fun x => taskFault place x.2 x.1) (ts.map taskOf) := by
  rw [mapM_faultOr fun x _ => taskAt_eq place x.1 x.2, map_zipIdx_fst]

/-- A play stops at its first fault, and otherwise reads as `playOf` says. -/
theorem buildPlay_eq (i : Nat) (e : Value) :
    buildPlay i e = faultOr (playFault i e) (playOf e) := by
  cases e with
  | map kvs =>
    simp only [buildPlay, playFault, playOf, varsEntries_eq, taskItems_eq, mapM_taskAt,
      ofEntries_eq]
    generalize "play #" ++ toString i = place
    -- the checks in order: `vars`, `tasks`, each task, the keys of `vars`
    cases varsFault place (Entries.get? kvs "vars") with
    | some e => rfl
    | none =>
      cases tasksFault place (Entries.get? kvs "tasks") with
      | some e => rfl
      | none =>
        simp only [faultOr_none_bind]
        cases ((itemsIn (Entries.get? kvs "tasks")).zipIdx 1).findSome?
            (fun x => taskFault place x.2 x.1) with
        | some e => rfl
        | none => cases keysFault (entriesIn (Entries.get? kvs "vars")) <;> rfl
  | _ => rfl

/-! ## The plays of a document -/

/-- The first play at fault of a list of plays, counted from 1. -/
def firstPlayFault (entries : List Value) : Option PlaybookError :=
  (entries.zipIdx 1).findSome? fun x => playFault x.2 x.1

/-- The playbook a loaded document reads as: no plays for an empty document; for a list, the
fault of its first play at fault, or else a play for each entry in order; anything else is
refused whole. -/
def playbookOf : Option Value → Except PlaybookError (List Play)
  | none | some .null => .ok []
  | some (.list entries) => faultOr (firstPlayFault entries) (entries.map playOf)
  | some d => .error (.shape ("expected a list of plays, got " ++ kindPhrase d))

/-- The plays of a list stop at the first play at fault. -/
theorem mapM_buildPlay (entries : List Value) :
    (entries.zipIdx 1).mapM (fun x => buildPlay x.2 x.1) =
      faultOr (firstPlayFault entries) (entries.map playOf) := by
  rw [mapM_faultOr fun x _ => buildPlay_eq x.2 x.1, map_zipIdx_fst, firstPlayFault]

/-- The plays of a loaded document: none when it is empty; a refusal naming the kind of
anything that is no list; for a list, the reading stops at the first fault, going through
the plays in order and through each play in the order `playFault` gives, and otherwise
reads each entry as a play. -/
theorem plays_of_document (d : Option Value) : playsOfDocument d = playbookOf d := by
  rcases d with _ | d
  · rfl
  · cases d with
    | list entries =>
      simp only [playsOfDocument, playbookOf]
      exact mapM_buildPlay entries
    | _ => rfl

/-- The entries of a document that is a list, and none of any other. -/
def playEntries : Option Value → List Value
  | some (.list entries) => entries
  | _ => []

/-- A document read as a playbook gives a play for each of its entries. -/
theorem playsOfDocument_ok {d : Option Value} {plays : List Play}
    (read : playsOfDocument d = .ok plays) : plays = (playEntries d).map playOf := by
  rcases d with _ | d
  · cases read
    rfl
  · cases d with
    | null =>
      cases read
      rfl
    | list entries =>
      simp only [playsOfDocument, mapM_buildPlay] at read
      cases fault : firstPlayFault entries with
      | none =>
        rw [fault, faultOr_none, Except.ok.injEq] at read
        exact read.symm
      | some e => simp [fault] at read
    | _ => cases read

/-- A task with a key too long to be written as text stops the reading at that task, so the
task after it, which is no mapping, is never reported. -/
theorem unwritable_key_stops_first :
    playsOfDocument (some (.list [.map [(.str "tasks",
      .list [.map [(.int (Nat.pow 16 3600 - 1 : Nat), .int 1)], .int 5])]])) ≠
      .error (.shape "play #1 task #2 is a int, expected a mapping") := by
  have long : Number.tooLongToWrite (Nat.pow 16 3600 - 1 : Nat) = true := by decide +kernel
  -- the number itself is never looked at again, only that it is too long
  generalize ((Nat.pow 16 3600 - 1 : Nat) : Int) = n at long ⊢
  simp only [playsOfDocument, mapM_buildPlay, firstPlayFault]
  simp [playFault, taskFault, keysFault, Value.writable, long, Entries.get?, Entries.lookup,
    varsFault, tasksFault, itemsIn, entriesIn, unwritableKey]

end Ansible

end IacLint
