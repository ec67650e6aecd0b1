import Mathlib
import IacLint.Finding

/-!
# The tally of an outcome counts its findings

An outcome keeps its findings twice: as the list in the order they were made, and as
counts by severity. Every way of adding findings changes both at once, so the counts are
always those of the list: from the empty outcome, after any sequence of single additions
and of additions of several findings (including a source of findings that stops with a
failure partway, which has added what it gave before it stopped), each count is the number
of findings of its severity.

Everything a report reads off the counts then speaks of the findings themselves: the total
is their number, the most severe count present is the most severe finding, an outcome
passes when no finding is an error, and it fails a threshold when some finding reaches it.

## Main definitions

* `Outcome.Call` — a call that adds findings to an outcome
* `Outcome.Counted` — the counts of an outcome are those of its findings

## Main results

* `Outcome.Counted.apply` — one call keeps the counts right
* `Outcome.counted_run` — so does every sequence of calls from the empty outcome
* `Outcome.run_summary` — the counts, total, most severe finding, verdict and exit code
  after any sequence of calls
-/

namespace IacLint

namespace Severity

theorem le_iff_rank {a b : Severity} : a ≤ b ↔ a.rank ≤ b.rank := Iff.rfl

theorem lt_iff_rank {a b : Severity} : a < b ↔ a.rank < b.rank := Iff.rfl

theorem le_trans {a b c : Severity} (hab : a ≤ b) (hbc : b ≤ c) : a ≤ c :=
  Nat.le_trans hab hbc

theorem lt_of_not_le {a b : Severity} (h : ¬ a ≤ b) : b < a := by
  rw [le_iff_rank] at h
  rw [lt_iff_rank]
  omega

theorem forall_iff {p : Severity → Prop} : (∀ s, p s) ↔ p .info ∧ p .warn ∧ p .error :=
  ⟨fun h => ⟨h _, h _, h _⟩, fun ⟨hi, hw, he⟩ s => by cases s <;> assumption⟩

end Severity

namespace Tally

variable {t : Tally} {s s' : Severity}

@[simp] theorem count_add : (t.add s').count s = t.count s + if s' = s then 1 else 0 := by
  cases s' <;> cases s <;> rfl

theorem total_eq : t.total = t.count .error + t.count .warn + t.count .info := rfl

/-- The search for the most severe count present, written out over the three
severities. -/
theorem highest_eq : t.highest =
    if 0 < t.count .error then some .error
    else if 0 < t.count .warn then some .warn
    else if 0 < t.count .info then some .info else none := by
  simp only [highest, order, List.find?, gt_iff_lt]
  split_ifs <;> simp_all

/-- The most severe count present is `s` exactly when `s` has findings and no severity
above it has any. -/
theorem highest_eq_some_iff :
    t.highest = some s ↔ 0 < t.count s ∧ ∀ s', s < s' → t.count s' = 0 := by
  rw [highest_eq]
  cases s <;> simp only [Severity.forall_iff, Severity.lt_iff_rank, Severity.rank] <;>
    split_ifs <;> simp <;> omega

theorem highest_eq_none_iff : t.highest = none ↔ ∀ s, t.count s = 0 := by
  rw [highest_eq, Severity.forall_iff]
  split_ifs <;> simp <;> omega

end Tally

namespace Outcome

variable {r : Outcome} {f : Finding} {fs : List Finding} {s : Severity}

@[simp] theorem findings_add : (r.add f).findings = r.findings ++ [f] := rfl

@[simp] theorem tally_add : (r.add f).tally = r.tally.add f.severity := rfl

@[simp] theorem addAll_nil : r.addAll [] = r := rfl

@[simp] theorem addAll_cons : r.addAll (f :: fs) = (r.add f).addAll fs := rfl

@[simp] theorem findings_addAll : (r.addAll fs).findings = r.findings ++ fs := by
  induction fs generalizing r with
  | nil => simp
  | cons f fs ih => simp [ih]

@[simp] theorem findings_ofFindings : (ofFindings fs).findings = fs := by
  simp [ofFindings]

/-- The counts of an outcome are those of its findings. -/
def Counted (r : Outcome) : Prop :=
  ∀ s, r.tally.count s = r.findings.countP (·.severity == s)

theorem counted_empty : Counted {} := fun s => by cases s <;> rfl

theorem Counted.add (counted : Counted r) (f : Finding) : Counted (r.add f) := by
  intro s
  simp [counted s]

theorem Counted.addAll (counted : Counted r) (fs : List Finding) : Counted (r.addAll fs) := by
  induction fs generalizing r with
  | nil => exact counted
  | cons f fs ih => exact ih (counted.add f)

theorem counted_ofFindings (fs : List Finding) : Counted (ofFindings fs) :=
  counted_empty.addAll fs

/-! ## What a report reads off the counts -/

/-- Every finding has one of the three severities, so the three counts add up to the
number of findings. -/
theorem countP_severities (fs : List Finding) :
    fs.countP (·.severity == .error) + fs.countP (·.severity == .warn) +
      fs.countP (·.severity == .info) = fs.length := by
  induction fs with
  | nil => rfl
  | cons f fs ih =>
    simp only [List.countP_cons, List.length_cons]
    cases f.severity <;> simp <;> omega

theorem Counted.total (counted : Counted r) : r.tally.total = r.findings.length := by
  rw [Tally.total_eq, counted, counted, counted]
  exact countP_severities r.findings

theorem Counted.count_pos (counted : Counted r) :
    0 < r.tally.count s ↔ ∃ f ∈ r.findings, f.severity = s := by
  simp [counted s]

theorem Counted.count_eq_zero (counted : Counted r) :
    r.tally.count s = 0 ↔ ∀ f ∈ r.findings, f.severity ≠ s := by
  simp [counted s]

theorem Counted.highest_eq_none (counted : Counted r) :
    r.tally.highest = none ↔ r.findings = [] := by
  rw [Tally.highest_eq_none_iff, List.eq_nil_iff_forall_not_mem]
  constructor
  · intro none f member
    exact (counted.count_eq_zero.mp (none f.severity)) f member rfl
  · intro empty s
    exact counted.count_eq_zero.mpr fun f member => absurd member (empty f)

/-- The most severe count present is the severity of a finding that no other finding
exceeds. -/
theorem Counted.highest_eq_some (counted : Counted r) :
    r.tally.highest = some s ↔
      (∃ f ∈ r.findings, f.severity = s) ∧ ∀ f ∈ r.findings, f.severity ≤ s := by
  rw [Tally.highest_eq_some_iff, counted.count_pos]
  refine and_congr_right fun _ => ⟨fun above f member => ?_, fun bounded s' lt => ?_⟩
  · by_contra exceeds
    exact counted.count_eq_zero.mp (above _ (Severity.lt_of_not_le exceeds)) f member rfl
  · refine counted.count_eq_zero.mpr fun f member same => ?_
    have bound := bounded f member
    rw [same, Severity.le_iff_rank] at bound
    rw [Severity.lt_iff_rank] at lt
    omega

theorem Counted.passed (counted : Counted r) :
    r.passed = true ↔ ∀ f ∈ r.findings, f.severity ≠ .error := by
  rw [Outcome.passed, decide_eq_true_iff]
  exact counted.count_eq_zero (s := .error)

/-- A run fails a threshold exactly when some finding reaches it. -/
theorem Counted.exitCode (counted : Counted r) (threshold : Severity) :
    r.exitCode threshold = if ∃ f ∈ r.findings, threshold ≤ f.severity then 1 else 0 := by
  unfold Outcome.exitCode
  cases highest : r.tally.highest with
  | none =>
    have empty := counted.highest_eq_none.mp highest
    simp [empty]
  | some s =>
    obtain ⟨⟨top, member, rfl⟩, bounded⟩ := counted.highest_eq_some.mp highest
    have reaches : threshold ≤ top.severity ↔ ∃ f ∈ r.findings, threshold ≤ f.severity :=
      ⟨fun h => ⟨top, member, h⟩,
        fun ⟨f, hf, h⟩ => Severity.le_trans h (bounded f hf)⟩
    simp only [reaches]

/-! ## Calls on an outcome -/

/-- A call that adds findings to an outcome: one finding, or the findings a source gives,
in order. A source may fail after giving its first `k` findings (`stop = some k`); those
stay added and the failure goes to the caller. -/
inductive Call where
  | add (f : Finding)
  | extend (source : List Finding) (stop : Option Nat)

/-- The outcome after one call. -/
def Call.apply (r : Outcome) : Call → Outcome
  | .add f => r.add f
  | .extend source none => r.addAll source
  | .extend source (some k) => r.addAll (source.take k)

/-- The outcome of a sequence of calls on an empty outcome. -/
def run (calls : List Call) : Outcome := calls.foldl Call.apply {}

/-- One call keeps the counts those of the findings. -/
theorem Counted.apply (counted : Counted r) : ∀ c : Call, Counted (c.apply r)
  | .add f => counted.add f
  | .extend source none => counted.addAll source
  | .extend source (some k) => counted.addAll (source.take k)

theorem Counted.foldl (counted : Counted r) (calls : List Call) :
    Counted (calls.foldl Call.apply r) := by
  induction calls generalizing r with
  | nil => exact counted
  | cons c calls ih => exact ih (counted.apply c)

theorem counted_run (calls : List Call) : Counted (run calls) :=
  counted_empty.foldl calls

/-- After any sequence of calls from the empty outcome, the counts by severity, their
total, the most severe severity present, the verdict and the exit code at every
threshold are those of the findings. -/
theorem run_summary (calls : List Call) :
    let r := run calls
    r.tally.error = r.findings.countP (·.severity == .error) ∧
    r.tally.warn = r.findings.countP (·.severity == .warn) ∧
    r.tally.info = r.findings.countP (·.severity == .info) ∧
    r.tally.total = r.findings.length ∧
    (r.tally.highest = none ↔ r.findings = []) ∧
    (∀ s, r.tally.highest = some s ↔
      (∃ f ∈ r.findings, f.severity = s) ∧ ∀ f ∈ r.findings, f.severity ≤ s) ∧
    (r.passed = true ↔ ∀ f ∈ r.findings, f.severity ≠ .error) ∧
    ∀ threshold, r.exitCode threshold =
      if ∃ f ∈ r.findings, threshold ≤ f.severity then 1 else 0 := by
  intro r
  have counted : Counted r := counted_run calls
  exact ⟨counted .error, counted .warn, counted .info, counted.total, counted.highest_eq_none,
    fun _ => counted.highest_eq_some, counted.passed, counted.exitCode⟩

end Outcome

end IacLint
