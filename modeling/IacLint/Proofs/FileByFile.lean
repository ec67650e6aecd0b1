import Mathlib
import IacLint.Proofs.Tally
import IacLint.Proofs.WalkOrder
import IacLint.Terraform.Rule
import IacLint.Ansible.Checks
import IacLint.Puppet.Checks

/-!
# A scan goes file by file

Every check of every rule makes its findings about the file it is given: the path it is
called with is the file of each finding. A scan calls the rule once for each path the walk
yields, from nothing, and keeps what the file gave, with one error after it when the
file's checks stopped on a failure. Nothing else is carried from one file to the next, so
the findings of a scan are those of the yielded paths taken one at a time, and since a
yielded path is, as a root of its own, the only file of its walk, a scan is the scans of
its files put together. A scan fails exactly when its walk does.

## Main definitions

* `AllAbout` — every finding of a list is about one file
* `Rule.Tags` — a rule makes every finding on a file about that file
* `ScansFileByFile` — a scan is the scans of its files, put together

## Main results

* `Terraform.terraformRule_tags`, `Ansible.ansibleRule_tags`, `Puppet.puppetRule_tags`
* `scansFileByFile_of_tags` — a rule that tags its findings scans file by file
* `scan_file_by_file` — so do the rules of the three kinds of file
-/

namespace IacLint

open IacLint.Files

/-- Every finding of `fs` is about the file at `path`. -/
def AllAbout (path : String) (fs : List Finding) : Prop := ∀ f ∈ fs, f.file = path

section AllAbout

variable {path : String} {fs gs : List Finding} {α : Type}

@[simp] theorem allAbout_nil : AllAbout path [] := fun _ h => nomatch h

@[simp] theorem allAbout_append :
    AllAbout path (fs ++ gs) ↔ AllAbout path fs ∧ AllAbout path gs := by
  simp [AllAbout, or_imp, forall_and]

@[simp] theorem allAbout_cons {f : Finding} :
    AllAbout path (f :: fs) ↔ f.file = path ∧ AllAbout path fs := by
  simp [AllAbout]

theorem allAbout_flatMap {xs : List α} {g : α → List Finding} :
    AllAbout path (xs.flatMap g) ↔ ∀ x ∈ xs, AllAbout path (g x) := by
  simp only [AllAbout, List.mem_flatMap]
  grind

theorem allAbout_map {xs : List α} {g : α → Finding} (about : ∀ x, (g x).file = path) :
    AllAbout path (xs.map g) := by
  simp [AllAbout, about]

theorem allAbout_filterMap {xs : List α} {g : α → Option Finding}
    (about : ∀ x f, g x = some f → f.file = path) : AllAbout path (xs.filterMap g) := by
  intro f member
  obtain ⟨x, -, made⟩ := List.mem_filterMap.mp member
  exact about x f made

end AllAbout

/-- A rule makes every finding on a file about that file. -/
def Rule.Tags (rule : Rule) : Prop := ∀ p, AllAbout p (rule.scanFile p).findings

/-- The error for a failure that stopped a file is about that file too. -/
theorem FileReport.allFindings_about {p : String} {r : FileReport}
    (about : AllAbout p r.findings) : AllAbout p (r.allFindings p) := by
  unfold FileReport.allFindings
  split <;> simp [about]

/-! ## Every check tags its findings with its file -/

namespace Terraform

theorem checkBlock_about (path : String) (b : Block) : AllAbout path (checkBlock path b) := by
  simp only [checkBlock, allAbout_flatMap]
  intro c member
  -- a resource block goes through four checks, any other block through one
  split_ifs at member <;> simp only [resourceChecks, variableChecks, List.mem_cons,
    List.not_mem_nil, or_false] at member
  · rcases member with rfl | rfl | rfl | rfl
    · unfold checkDeprecatedResource
      split <;> simp
    · unfold checkPublicBucket
      split
      · split_ifs <;> simp
      · simp
    · unfold checkRequiredTags
      split_ifs
      · simp
      · split
        · exact allAbout_map fun _ => rfl
        · simp
    · exact allAbout_map fun _ => rfl
  · subst member
    unfold checkVariableDefault
    split_ifs
    · split
      · split_ifs <;> simp
      · simp
    · simp

theorem checkText_about (path text : String) : AllAbout path (checkText path text).findings := by
  unfold checkText
  split
  · split
    · exact allAbout_flatMap.mpr fun b _ => checkBlock_about path b
    · simp
  · simp

theorem terraformRule_tags (t : Tree) : (terraformRule t).Tags := by
  intro p
  dsimp only [terraformRule]
  split
  · simp
  · exact checkText_about p _

end Terraform

namespace Ansible

theorem checkTask_about (path : String) (t : Task) : AllAbout path (checkTask path t) := by
  simp only [checkTask, allAbout_flatMap, taskChecks, List.mem_cons, List.not_mem_nil, or_false]
  rintro c (rfl | rfl | rfl | rfl)
  · unfold checkBecome
    split_ifs
    · simp
    · split <;> simp
  · exact allAbout_map fun _ => rfl
  · refine allAbout_filterMap fun k f made => ?_
    split_ifs at made
    obtain ⟨why, -, rfl⟩ := Option.map_eq_some_iff.mp made
    rfl
  · exact allAbout_map fun _ => rfl

theorem checkPlaybook_about (path : String) (plays : List Play) :
    AllAbout path (checkPlaybook path plays) := by
  simp only [checkPlaybook, allAbout_append, allAbout_flatMap]
  refine ⟨fun p _ => ⟨?_, fun t _ => checkTask_about path t⟩, allAbout_map fun _ => rfl⟩
  unfold checkPlayHosts
  split <;> simp

theorem checkText_about (path text : String) : AllAbout path (checkText path text).findings := by
  unfold checkText
  split
  · exact checkPlaybook_about path _
  · split <;> simp

theorem ansibleRule_tags (t : Tree) : (ansibleRule t).Tags := by
  intro p
  dsimp only [ansibleRule]
  split
  · simp
  · exact checkText_about p _

end Ansible

theorem Lint.linterFindings_about (path : String) (o : Lint.LinterOutput) :
    AllAbout path (Lint.linterFindings path o) := by
  unfold Lint.linterFindings
  split_ifs
  · exact allAbout_map fun _ => rfl
  · split
    · split_ifs <;> simp
    · simp

namespace Puppet

theorem checkManifest_about (path : String) (m : Manifest) :
    AllAbout path (checkManifest path m) := by
  simp only [checkManifest, allAbout_flatMap, manifestChecks, List.mem_cons, List.not_mem_nil,
    or_false]
  rintro c (rfl | rfl | rfl | rfl | rfl)
  · exact allAbout_map fun _ => rfl
  · unfold checkClassDeclaration
    split <;> simp
  · unfold checkHardcodedPassword
    split <;> simp
  · exact allAbout_map fun _ => rfl
  · exact allAbout_map fun _ => rfl

/-- The linter's findings, the read failure and the manifest checks are all about the
file the linter was run on. -/
theorem puppetRule_tags (t : Tree) (lint : Linter) : (puppetRule t lint).Tags := by
  intro p
  dsimp only [puppetRule]
  split
  · simp
  · split
    · simp [Lint.linterFindings_about]
    · simp [Lint.linterFindings_about, checkManifest_about]

end Puppet

/-! ## A scan and its files -/

theorem mapM_ok {ε α β : Type} {g : α → Except ε β} {h : α → β} {l : List α}
    (each : ∀ x ∈ l, g x = .ok (h x)) : l.mapM g = .ok (l.map h) := by
  induction l with
  | nil => rfl
  | cons x l ih =>
    rw [List.mapM_cons, each x List.mem_cons_self,
      ih fun y member => each y (List.mem_cons_of_mem x member)]
    rfl

section Scan

variable {t : Tree} {root : String} {rule : Rule}

theorem scan_error_iff {m : String} : scan t root rule = .error m ↔
    ∃ e, filesUnder t root rule.extensions = .error e ∧
      m = "Cannot traverse " ++ root ++ ": " ++ e.message := by
  unfold scan
  cases filesUnder t root rule.extensions with
  | error e => simp [eq_comm]
  | ok paths => simp

theorem scan_of_ok {paths : List String} (walked : filesUnder t root rule.extensions = .ok paths) :
    scan t root rule =
      .ok (Outcome.ofFindings (paths.flatMap fun p => (rule.scanFile p).allFindings p)) := by
  simp [scan, walked]

/-- A scan is the scans of its files put together. -/
def ScansFileByFile (t : Tree) (root : String) (rule : Rule) : Prop :=
  (∀ m, scan t root rule = .error m ↔ ∃ e, filesUnder t root rule.extensions = .error e ∧
      m = "Cannot traverse " ++ root ++ ": " ++ e.message) ∧
  ∀ paths, filesUnder t root rule.extensions = .ok paths →
    ∃ r, scan t root rule = .ok r ∧
      r.findings = paths.flatMap (fun p => (rule.scanFile p).allFindings p) ∧
      (∀ p ∈ paths, AllAbout p ((rule.scanFile p).allFindings p)) ∧
      ∃ outs, paths.mapM (fun p => scan t p rule) = .ok outs ∧
        r.findings = outs.flatMap Outcome.findings

/-- A rule that tags its findings with their file scans file by file. The findings are
those of the files by the definition of a scan; that the scan of a yielded path as a root
gives the same findings is where the walk comes in, since that path is the only file of
its own walk. -/
theorem scansFileByFile_of_tags (ft : FileTree) (root : String) {rule : Rule}
    (tags : rule.Tags) : ScansFileByFile ft.tree root rule := by
  refine ⟨fun m => scan_error_iff, fun paths walked => ?_⟩
  have alone : ∀ p ∈ paths, scan ft.tree p rule =
      .ok (Outcome.ofFindings ((rule.scanFile p).allFindings p)) := fun p member => by
    simp [scan_of_ok (filesUnder_of_mem ft walked member)]
  refine ⟨_, scan_of_ok walked, by simp, fun p _ => FileReport.allFindings_about (tags p),
    _, mapM_ok alone, ?_⟩
  simp [List.flatMap_map]

end Scan

/-- A scan with the rule of any of the three kinds of file, whatever the linter, fails
exactly when its walk does; otherwise its findings are, in walk order, those the rule
makes on each yielded path from nothing, each about that path, with one error after them
when the file's checks stopped, and the scan is the scans of the yielded paths as roots of
their own, put together. -/
theorem scan_file_by_file (ft : FileTree) (root : String) :
    ScansFileByFile ft.tree root (Terraform.terraformRule ft.tree) ∧
      ScansFileByFile ft.tree root (Ansible.ansibleRule ft.tree) ∧
      ∀ lint, ScansFileByFile ft.tree root (Puppet.puppetRule ft.tree lint) :=
  ⟨scansFileByFile_of_tags ft root (Terraform.terraformRule_tags ft.tree),
    scansFileByFile_of_tags ft root (Ansible.ansibleRule_tags ft.tree),
    fun lint => scansFileByFile_of_tags ft root (Puppet.puppetRule_tags ft.tree lint)⟩

end IacLint
