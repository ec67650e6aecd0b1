import IacLint.Text.Blank
import IacLint.Text.Case
import IacLint.Text.Quoted

/-!
# Severities

Every finding has one of three severities, ordered `INFO < WARN < ERROR`. A run fails
when a finding reaches a threshold severity, and thresholds are named by words: `info`,
`warn` or `warning`, `error`, in any case and with blanks around them.

## Main definitions

* `Severity` — the three severities, their rank and order
* `Severity.ofThreshold` — the severity a threshold word names, or the complaint
* `Severity.thresholdChoices` — the threshold words offered on the command line
-/

namespace IacLint

/-- The severity of a finding. -/
inductive Severity where
  | info
  | warn
  | error
  deriving DecidableEq, Repr, Inhabited

namespace Severity

/-- The rank that orders severities: 0, 1, 2. -/
def rank : Severity → Nat
  | .info => 0
  | .warn => 1
  | .error => 2

instance : LE Severity := ⟨fun a b => a.rank ≤ b.rank⟩
instance : LT Severity := ⟨fun a b => a.rank < b.rank⟩
instance (a b : Severity) : Decidable (a ≤ b) := inferInstanceAs (Decidable (a.rank ≤ b.rank))
instance (a b : Severity) : Decidable (a < b) := inferInstanceAs (Decidable (a.rank < b.rank))

/-- The written name: `INFO`, `WARN`, `ERROR`. -/
def name : Severity → String
  | .info => "INFO"
  | .warn => "WARN"
  | .error => "ERROR"

/-- The severity with a written name. -/
def ofName? : String → Option Severity
  | "INFO" => some .info
  | "WARN" => some .warn
  | "ERROR" => some .error
  | _ => none

/-- The severity a threshold word names, after dropping surrounding blanks and
lowering the case. -/
def ofThresholdWord? (word : String) : Option Severity :=
  match Text.lower (Text.strip word) with
  | "info" => some .info
  | "warn" | "warning" => some .warn
  | "error" => some .error
  | _ => none

/-- The severity a threshold word names, or the complaint, which quotes the word as
given. -/
def ofThreshold (word : String) : Except String Severity :=
  match ofThresholdWord? word with
  | some s => .ok s
  | none => .error ("Unknown severity threshold: " ++ Text.quote word)

/-- The threshold words offered on the command line, in rank order. -/
def thresholdChoices : List String := ["info", "warn", "error"]

theorem rank_injective {a b : Severity} (h : a.rank = b.rank) : a = b := by
  cases a <;> cases b <;> simp_all [rank]

end Severity

end IacLint
