import Mathlib
import IacLint.Proofs.PlaybookShape
import IacLint.Ansible.Checks

/-!
# The findings of a playbook

Unused variables: each variable that some play defines and that no task of any play refers
to is reported once, in the order the variables are first defined, plays in order and each
play's variables in order. Where a variable is defined and where it is used do not matter,
so reordering the plays only reorders the findings, more tasks can only take findings away,
and more variables can only add findings.

Errors: of everything the playbook checks find, only the secret check gives errors, one for
each attribute of a task, in play, task and key order, whose name looks secret-bearing and
whose value is text that is not blank; everything else is a warning. The attributes of a
task read from a document are its mapping with the keys written as text, so the errors of a
playbook can be read off the document it was read from.

## Main definitions

* `definedVariables`, `usedVariables` — the variables the plays define, and those tasks use
* `unusedVariable` — the finding for a variable no task uses
* `secretAttributeErrors` — the errors the attributes of a task should give

## Main results

* `checkUnusedVariables_eq` — the unused variables, in the order they are first defined
* `unused_variables` — and how they change when plays are reordered or grow
* `checkPlaybook_errors` — only the secret check gives errors
* `playbook_errors` — the errors of a playbook, read off its document
-/

namespace IacLint

namespace Ansible

open IacLint.Data

/-! ## Names added once each -/

/-- Adding names one at a time, each unless it is there already, adds the names not there
yet, each once, in the order they first come. -/
theorem foldl_addNew (names acc : List String) :
    names.foldl (fun acc n => if acc.contains n then acc else acc ++ [n]) acc =
      acc ++ (names.removeAll acc).eraseDups := by
  induction names generalizing acc with
  | nil => simp [List.removeAll]
  | cons n names ih =>
    simp only [List.foldl_cons]
    by_cases seen : n ∈ acc
    · have dropped : (n :: names).removeAll acc = names.removeAll acc := by
        simp [List.removeAll, seen]
      rw [if_pos (List.contains_iff_mem.mpr seen), ih, dropped]
    · -- `n` is kept, and the names after it are those neither in `acc` nor `n`
      have kept : (n :: names).removeAll acc = n :: names.removeAll acc := by
        simp [List.removeAll, seen]
      have later : (names.removeAll acc).filter (fun b => !b == n) =
          names.removeAll (acc ++ [n]) := by
        simp only [List.removeAll, List.filter_filter]
        congr 1
        funext b
        by_cases same : b = n <;> simp [same]
      rw [if_neg (mt List.contains_iff_mem.mp seen), ih, kept, List.eraseDups_cons, later,
        List.append_assoc, List.singleton_append]

/-- Adding names each unless it is there already never puts a name in twice. -/
theorem nodup_foldl_addNew (names : List String) {acc : List String} (nodup : acc.Nodup) :
    (names.foldl (fun acc n => if acc.contains n then acc else acc ++ [n]) acc).Nodup := by
  induction names generalizing acc with
  | nil => exact nodup
  | cons n names ih =>
    simp only [List.foldl_cons]
    by_cases seen : n ∈ acc
    · rw [if_pos (List.contains_iff_mem.mpr seen)]
      exact ih nodup
    · rw [if_neg (mt List.contains_iff_mem.mp seen)]
      exact ih (List.nodup_append.mpr ⟨nodup, List.nodup_singleton n,
        fun a inAcc b inNew same => seen (by simp_all)⟩)

/-- The first occurrences of the names of a list hold no name twice. -/
theorem nodup_eraseDups (names : List String) : names.eraseDups.Nodup := by
  have added := foldl_addNew names []
  rw [List.nil_append, show names.removeAll [] = names by simp [List.removeAll]] at added
  exact added ▸ nodup_foldl_addNew names List.nodup_nil

/-! ## Variables defined but not used -/

/-- The variables the plays define, each once, in the order they are first defined: plays in
order, and the variables of each play in order. -/
def definedVariables (plays : List Play) : List String :=
  (plays.flatMap fun p => p.vars.map Prod.fst).eraseDups

/-- The variables that some task of some play refers to. -/
def usedVariables (plays : List Play) : List String :=
  plays.flatMap fun p => p.tasks.flatMap referencedVariables

/-- The finding for a variable that no task uses. -/
def unusedVariable (path n : String) : Finding :=
  ⟨path, .warn, "Variable '" ++ n ++ "' defined but not used"⟩

/-- The variables no task uses, one finding each, in the order they are first defined. -/
theorem checkUnusedVariables_eq (path : String) (plays : List Play) :
    checkUnusedVariables path plays =
      ((definedVariables plays).filter (· ∉ usedVariables plays)).map (unusedVariable path) := by
  -- the fold over plays, then over each play's variables, is one fold over their names
  have names : ∀ (l : List (String × Value)) (acc : List String),
      l.foldl (fun acc x => if acc.contains x.1 then acc else acc ++ [x.1]) acc =
        (l.map Prod.fst).foldl (fun acc n => if acc.contains n then acc else acc ++ [n]) acc :=
    fun l acc => by rw [List.foldl_map]
  have defined : plays.foldl (fun acc p => p.vars.foldl
      (fun acc x => if acc.contains x.1 then acc else acc ++ [x.1]) acc) [] =
      definedVariables plays := by
    rw [← List.foldl_flatMap, names, foldl_addNew, List.map_flatMap, definedVariables]
    simp [List.removeAll]
  simp only [checkUnusedVariables, defined]
  congr 1
  refine List.filter_congr fun n _ => ?_
  show (!(usedVariables plays).contains n) = decide (n ∉ usedVariables plays)
  by_cases used : n ∈ usedVariables plays <;> simp [used]

theorem unusedVariable_injective (path : String) : Function.Injective (unusedVariable path) := by
  intro n m same
  simp only [unusedVariable, Finding.mk.injEq, true_and] at same
  rwa [String.append_left_inj, String.append_right_inj] at same

theorem checkUnusedVariables_nodup (path : String) (plays : List Play) :
    (checkUnusedVariables path plays).Nodup := by
  rw [checkUnusedVariables_eq]
  exact ((nodup_eraseDups _).filter _).map (unusedVariable_injective path)

/-- Reordering the plays reorders the findings and changes nothing else. -/
theorem checkUnusedVariables_perm {path : String} {plays plays' : List Play}
    (reordered : plays.Perm plays') :
    (checkUnusedVariables path plays).Perm (checkUnusedVariables path plays') := by
  refine (List.perm_ext_iff_of_nodup (checkUnusedVariables_nodup path plays)
    (checkUnusedVariables_nodup path plays')).mpr fun f => ?_
  have defined : ∀ n, n ∈ definedVariables plays ↔ n ∈ definedVariables plays' := by
    intro n
    simp only [definedVariables, List.mem_eraseDups]
    exact (reordered.flatMap_right _).mem_iff
  have used : ∀ n, n ∈ usedVariables plays ↔ n ∈ usedVariables plays' :=
    fun n => (reordered.flatMap_right _).mem_iff
  simp only [checkUnusedVariables_eq, List.mem_map, List.mem_filter, defined, used]

section Grow

variable {α β γ : Type} {R : α → β → Prop} {l : List α} {l' : List β}

theorem flatMap_eq_of_forall₂ {f : α → List γ} {g : β → List γ}
    (related : List.Forall₂ R l l') (each : ∀ a b, R a b → g b = f a) :
    l'.flatMap g = l.flatMap f := by
  induction related with
  | nil => rfl
  | cons head _ ih => rw [List.flatMap_cons, List.flatMap_cons, each _ _ head, ih]

theorem flatMap_subset_of_forall₂ {f : α → List γ} {g : β → List γ}
    (related : List.Forall₂ R l l') (each : ∀ a b, R a b → f a ⊆ g b) :
    l.flatMap f ⊆ l'.flatMap g := by
  induction related with
  | nil => exact List.nil_subset _
  | cons head _ ih =>
    intro x member
    rw [List.flatMap_cons, List.mem_append] at member ⊢
    exact member.imp (each _ _ head ·) (ih ·)

end Grow

/-- More tasks, the variables unchanged, can only take findings away. -/
theorem checkUnusedVariables_sublist {path : String} {plays plays' : List Play}
    (more : List.Forall₂ (fun p q => q.vars = p.vars ∧ p.tasks ⊆ q.tasks) plays plays') :
    (checkUnusedVariables path plays').Sublist (checkUnusedVariables path plays) := by
  have defined : definedVariables plays' = definedVariables plays := by
    rw [definedVariables, definedVariables,
      flatMap_eq_of_forall₂ more fun p q grown => by rw [grown.1]]
  have used : usedVariables plays ⊆ usedVariables plays' := by
    refine flatMap_subset_of_forall₂ more fun p q grown n member => ?_
    obtain ⟨t, task, named⟩ := List.mem_flatMap.mp member
    exact List.mem_flatMap.mpr ⟨t, grown.2 task, named⟩
  rw [checkUnusedVariables_eq, checkUnusedVariables_eq, defined]
  refine (List.monotone_filter_right _ fun n unused => ?_).map _
  simp only [decide_eq_true_eq] at unused ⊢
  exact fun member => unused (used member)

/-- More variables, the tasks unchanged, can only add findings. -/
theorem checkUnusedVariables_subset {path : String} {plays plays' : List Play}
    (more : List.Forall₂
      (fun p q => q.tasks = p.tasks ∧ p.vars.map Prod.fst ⊆ q.vars.map Prod.fst) plays plays') :
    checkUnusedVariables path plays ⊆ checkUnusedVariables path plays' := by
  have defined : definedVariables plays ⊆ definedVariables plays' := by
    intro n member
    rw [definedVariables, List.mem_eraseDups] at member ⊢
    exact flatMap_subset_of_forall₂ more (fun p q grown => grown.2) member
  have used : usedVariables plays' = usedVariables plays := by
    rw [usedVariables, usedVariables, flatMap_eq_of_forall₂ more fun p q grown => by rw [grown.1]]
  rw [checkUnusedVariables_eq, checkUnusedVariables_eq, used]
  exact List.map_subset _ (List.filter_subset _ defined)

/-- The variables no task uses are reported once each, in the order they are first defined,
whichever play defines them and whichever play uses them: so reordering the plays only
reorders the findings, more tasks can only take findings away, and more variables can only
add findings. -/
theorem unused_variables (path : String) (plays : List Play) :
    checkUnusedVariables path plays =
        ((definedVariables plays).filter (· ∉ usedVariables plays)).map (unusedVariable path) ∧
      (checkUnusedVariables path plays).Nodup ∧
      (∀ plays', plays.Perm plays' →
        (checkUnusedVariables path plays).Perm (checkUnusedVariables path plays')) ∧
      (∀ plays', List.Forall₂ (fun p q => q.vars = p.vars ∧ p.tasks ⊆ q.tasks) plays plays' →
        (checkUnusedVariables path plays').Sublist (checkUnusedVariables path plays)) ∧
      (∀ plays', List.Forall₂
          (fun p q => q.tasks = p.tasks ∧ p.vars.map Prod.fst ⊆ q.vars.map Prod.fst) plays plays' →
        checkUnusedVariables path plays ⊆ checkUnusedVariables path plays') :=
  ⟨checkUnusedVariables_eq path plays, checkUnusedVariables_nodup path plays,
    fun _ => checkUnusedVariables_perm, fun _ => checkUnusedVariables_sublist,
    fun _ => checkUnusedVariables_subset⟩

/-! ## Errors -/

/-- A value that is text and not blank. -/
def isNonBlankText : Value → Bool
  | .str s => Text.strip s != ""
  | _ => false

/-- The errors the attributes of a task should give: one for each attribute, in order, whose
name looks secret-bearing and whose value is text that is not blank. -/
def secretAttributeErrors (path : String) (fields : List (String × Value)) : List Finding :=
  (fields.filter fun kv => Catalog.containsSecretKeyword kv.1 && isNonBlankText kv.2).map
    fun kv => ⟨path, .error, "Possible hardcoded secret in attribute '" ++ kv.1 ++ "'"⟩

theorem checkSecretAttributes_eq (path : String) (t : Task) :
    checkSecretAttributes path t = secretAttributeErrors path t.fields := by
  obtain ⟨fields⟩ := t
  induction fields with
  | nil => rfl
  | cons kv fields ih =>
    obtain ⟨k, v⟩ := kv
    -- only text values are looked at, and text is flagged on the same test
    cases v with
    | str s =>
      by_cases flagged : (Catalog.containsSecretKeyword k && Text.strip s != "") = true <;>
        simp_all [checkSecretAttributes, secretAttributeErrors, Task.textValues, isNonBlankText]
    | _ => simp_all [checkSecretAttributes, secretAttributeErrors, Task.textValues, isNonBlankText]

section Severity

variable (path : String)

/-- Findings made one for each element of a list, each with one severity, have that
severity. -/
theorem severity_of_mem_map {α : Type} {s : Severity} {g : α → Finding}
    (each : ∀ a, (g a).severity = s) (l : List α) : ∀ f ∈ l.map g, f.severity = s := by
  intro f member
  obtain ⟨a, -, rfl⟩ := List.mem_map.mp member
  exact each a

theorem checkPlayHosts_warn (p : Play) : ∀ f ∈ checkPlayHosts path p, f.severity = .warn := by
  unfold checkPlayHosts
  split <;> simp

theorem checkBecome_warn (t : Task) : ∀ f ∈ checkBecome path t, f.severity = .warn := by
  unfold checkBecome
  split_ifs
  · simp
  · split <;> simp

theorem checkRequiredFields_warn (t : Task) :
    ∀ f ∈ checkRequiredFields path t, f.severity = .warn :=
  severity_of_mem_map (by intro; rfl) _

theorem checkDeprecatedModules_warn (t : Task) :
    ∀ f ∈ checkDeprecatedModules path t, f.severity = .warn := by
  intro f member
  obtain ⟨k, -, made⟩ := List.mem_filterMap.mp member
  split_ifs at made
  obtain ⟨why, -, rfl⟩ := Option.map_eq_some_iff.mp made
  rfl

theorem checkSecretAttributes_error (t : Task) :
    ∀ f ∈ checkSecretAttributes path t, f.severity = .error :=
  severity_of_mem_map (by intro; rfl) _

theorem checkUnusedVariables_warn (plays : List Play) :
    ∀ f ∈ checkUnusedVariables path plays, f.severity = .warn := by
  rw [checkUnusedVariables_eq]
  exact severity_of_mem_map (by intro; rfl) _

/-- The errors of a task are those of its secret check. -/
theorem checkTask_errors (t : Task) :
    (checkTask path t).filter (·.severity == .error) = checkSecretAttributes path t := by
  have warned : ∀ f ∈ checkBecome path t ++ checkRequiredFields path t ++
      checkDeprecatedModules path t, f.severity = .warn := by
    simp only [List.mem_append]
    rintro f ((become | required) | deprecated)
    · exact checkBecome_warn path t f become
    · exact checkRequiredFields_warn path t f required
    · exact checkDeprecatedModules_warn path t f deprecated
  have others := Terraform.filter_severity_of_ne warned (by decide : Severity.warn ≠ .error)
  simp only [checkTask, taskChecks, List.flatMap_cons, List.flatMap_nil, List.append_nil,
    ← List.append_assoc, List.filter_append, others, List.nil_append]
  exact Terraform.filter_severity_of_all (checkSecretAttributes_error path t)

/-- The errors of a playbook are those of the secret checks of its tasks, in play and task
order. -/
theorem checkPlaybook_errors (plays : List Play) :
    (checkPlaybook path plays).filter (·.severity == .error) =
      plays.flatMap fun p => p.tasks.flatMap fun t => checkSecretAttributes path t := by
  have unused := Terraform.filter_severity_of_ne (checkUnusedVariables_warn path plays)
    (by decide : Severity.warn ≠ .error)
  have hosts : ∀ p : Play, (checkPlayHosts path p).filter (·.severity == .error) = [] :=
    fun p => Terraform.filter_severity_of_ne (checkPlayHosts_warn path p) (by decide)
  simp only [checkPlaybook, List.filter_append, unused, List.append_nil, List.filter_flatMap,
    hosts, List.nil_append, checkTask_errors]

theorem checkPlaybook_severity (plays : List Play) :
    ∀ f ∈ checkPlaybook path plays, f.severity = .error ∨ f.severity = .warn := by
  intro f member
  simp only [checkPlaybook, List.mem_append, List.mem_flatMap] at member
  rcases member with ⟨p, -, hosts | ⟨t, -, task⟩⟩ | unused
  · exact .inr (checkPlayHosts_warn path p f hosts)
  · simp only [checkTask, taskChecks, List.flatMap_cons, List.flatMap_nil, List.append_nil,
      List.mem_append] at task
    rcases task with become | required | deprecated | secret
    · exact .inr (checkBecome_warn path t f become)
    · exact .inr (checkRequiredFields_warn path t f required)
    · exact .inr (checkDeprecatedModules_warn path t f deprecated)
    · exact .inl (checkSecretAttributes_error path t f secret)
  · exact .inr (checkUnusedVariables_warn path plays f unused)

end Severity

/-- The mappings of the tasks of a play entry, as the document writes them. -/
def taskEntries : Value → List Entries
  | .map kvs => (itemsIn (Entries.get? kvs "tasks")).map fun t => entriesIn (some t)
  | _ => []

/-- The errors of a playbook read from a document are, in play, task and key order, one for
each attribute of a task whose name looks secret-bearing and whose value is text that is not
blank, where the attributes of a task are its mapping with the keys written as text, each at
its first place with its last value; everything else the checks find is a warning. -/
theorem playbook_errors {d : Option Value} {plays : List Play}
    (read : playsOfDocument d = .ok plays) (path : String) :
    (checkPlaybook path plays).filter (·.severity == .error) =
        (playEntries d).flatMap (fun e => (taskEntries e).flatMap fun kvs =>
          secretAttributeErrors path (textKeyed kvs)) ∧
      ∀ f ∈ checkPlaybook path plays, f.severity = .error ∨ f.severity = .warn := by
  refine ⟨?_, checkPlaybook_severity path plays⟩
  rw [checkPlaybook_errors, playsOfDocument_ok read, List.flatMap_map]
  refine List.flatMap_congr fun e _ => ?_
  cases e with
  | map kvs =>
    simp only [playOf, taskEntries, List.flatMap_map, checkSecretAttributes_eq, taskOf_fields]
  | _ => rfl

/-- A password given twice is one attribute, at its first place with its last value, and an
error; a blank token is not. -/
theorem playbook_errors_sample :
    let d : Option Value := some (.list [.map [(.str "hosts", .str "web"), (.str "tasks",
      .list [.map [(.str "name", .str "x"), (.str "password", .str ""),
        (.str "token", .str "  "), (.str "password", .str "hunter2")]])]])
    let plays : List Play := [{ hosts := .str "web", vars := [], tasks := [⟨[("name", .str "x"),
      ("password", .str "hunter2"), ("token", .str "  ")]⟩] }]
    playsOfDocument d = .ok plays ∧
      ((checkPlaybook "site.yml" plays).filter (·.severity == .error) =
          (playEntries d).flatMap (fun e => (taskEntries e).flatMap fun kvs =>
            secretAttributeErrors "site.yml" (textKeyed kvs)) ∧
        ∀ f ∈ checkPlaybook "site.yml" plays, f.severity = .error ∨ f.severity = .warn) := by
  intro d plays
  have read : playsOfDocument d = .ok plays := by rfl
  exact ⟨read, playbook_errors read "site.yml"⟩

end Ansible

end IacLint
