import Mathlib
import IacLint.Lint.Output

/-!
# Findings of the manifest linter

What the linter printed becomes findings in two steps: its output is read into lines or a
tool error, and those become warnings or one error. Together, the non-blank lines of the
standard output win whatever the exit status and error stream; only a failed run with no
such line gives an error, carrying the stripped error stream or else the exit status; and a
clean run with nothing to say gives nothing. A line is cut at every line break (a carriage
return and line feed together count once), so no warning holds a line break, and a blank
line is never a warning, so no warning is empty.

## Main results

* `Text.isLineBreak_of_mem_splitLines` — no line holds a line break
* `Text.strip_eq_empty_iff` — stripping empties exactly the blank texts
* `Lint.linterFindings_parseLinterOutput`, `Lint.linter_output_findings` — the findings of a
  finished linter run
-/

namespace IacLint

namespace Text

/-- No line holds a line break, given that the line begun so far holds none. -/
theorem isLineBreak_of_mem_splitLinesAux {cs cur : List Char}
    (begun : ∀ c ∈ cur, isLineBreak c = false) :
    ∀ l ∈ splitLinesAux cs cur, ∀ c ∈ l.toList, isLineBreak c = false := by
  fun_induction splitLinesAux cs cur with
  | case1 => simp
  | case2 cur _ =>
    intro l member c inside
    rw [List.mem_singleton.mp member, String.toList_ofList, List.mem_reverse] at inside
    exact begun c inside
  | case3 rest cur ih | case4 _ rest cur _ _ ih =>
    -- a line break closes the line begun so far, and the next line starts empty
    intro l member
    rcases List.mem_cons.mp member with rfl | later
    · simpa using begun
    · exact ih (by simp) l later
  | case5 c rest cur _ kept ih =>
    -- the character joins the line begun so far
    exact ih fun x inside => by
      rcases List.mem_cons.mp inside with rfl | earlier
      · simpa using kept
      · exact begun x earlier

theorem isLineBreak_of_mem_splitLines {s l : String} (line : l ∈ splitLines s) :
    ∀ c ∈ l.toList, isLineBreak c = false :=
  isLineBreak_of_mem_splitLinesAux (by simp) l line

/-- Stripping blanks from both ends leaves nothing exactly when there is nothing but blanks. -/
theorem stripChars_eq_nil_iff {cs : List Char} : stripChars cs = [] ↔ ∀ c ∈ cs, isBlank c := by
  rw [stripChars, List.reverse_eq_nil_iff, List.dropWhile_eq_nil_iff,
    ← @List.dropWhile_eq_nil_iff _ isBlank cs]
  simp only [List.mem_reverse]
  constructor
  · -- what is left after the leading blanks starts with a non-blank, if anything is left
    intro blanks
    have first := List.head?_dropWhile_not isBlank cs
    cases rest : cs.dropWhile isBlank with
    | nil => rfl
    | cons c more =>
      rw [rest] at first blanks
      have blank : isBlank c = true := blanks c List.mem_cons_self
      simp [blank] at first
  · intro none c inside
    simp [none] at inside

theorem strip_eq_empty_iff {s : String} : strip s = "" ↔ isBlankText s := by
  rw [strip, String.ofList_eq_empty_iff, stripChars_eq_nil_iff, isBlankText, List.all_eq_true]

end Text

namespace Lint

open IacLint.Text

/-- A finished run's findings: a warning per non-blank line of the output, or else one error
for a failed run, or else none. -/
theorem linterFindings_parseLinterOutput (path stdout : String) (stderr : Option String)
    (code : Int) :
    linterFindings path (parseLinterOutput stdout stderr code) =
      if (splitLines stdout).filter (fun l => !isBlankText l) ≠ [] then
        ((splitLines stdout).filter fun l => !isBlankText l).map fun l => ⟨path, .warn, l⟩
      else if code ≠ 0 then
        [⟨path, .error, "puppet-lint error: " ++
          if strip (stderr.getD "") ≠ "" then strip (stderr.getD "")
          else "exit status " ++ toString code⟩]
      else [] := by
  -- the output's own filter is the one on blank texts
  have kept : (splitLines stdout).filter (fun l => strip l != "") =
      (splitLines stdout).filter fun l => !isBlankText l := by
    refine List.filter_congr fun l _ => ?_
    rw [Bool.eq_iff_iff, bne_iff_ne, ne_eq, strip_eq_empty_iff, Bool.not_eq_true']
    simp
  rw [parseLinterOutput, kept]
  -- the error text is never empty, so a failed run always gives its error
  split_ifs with lines failed stripped <;> simp_all [linterFindings, String.isEmpty_iff]

/-- The findings of a finished linter run, for standard output and error stream given or
absent (an absent stream reads as empty): a warning for each line of the output that is not
blank, verbatim and in order, whatever the exit status and error stream; failing that, one
error for a failed run, with the stripped error stream or else the exit status; and nothing
for a clean run. Warnings and errors never mix, and no warning is empty or holds a line
break. -/
theorem linter_output_findings (path : String) (stdout stderr : Option String) (code : Int) :
    linterFindings path (parseLinterOutput (stdout.getD "") stderr code) =
      (if (splitLines (stdout.getD "")).filter (fun l => !isBlankText l) ≠ [] then
        ((splitLines (stdout.getD "")).filter fun l => !isBlankText l).map
          fun l => ⟨path, .warn, l⟩
      else if code ≠ 0 then
        [⟨path, .error, "puppet-lint error: " ++
          if strip (stderr.getD "") ≠ "" then strip (stderr.getD "")
          else "exit status " ++ toString code⟩]
      else []) ∧
    ((∀ f ∈ linterFindings path (parseLinterOutput (stdout.getD "") stderr code),
        f.severity = .warn) ∨
      ∀ f ∈ linterFindings path (parseLinterOutput (stdout.getD "") stderr code),
        f.severity = .error) ∧
    ∀ f ∈ linterFindings path (parseLinterOutput (stdout.getD "") stderr code),
      f.severity = .warn → f.message ≠ "" ∧ ∀ c ∈ f.message.toList, isLineBreak c = false := by
  have findings := linterFindings_parseLinterOutput path (stdout.getD "") stderr code
  refine ⟨findings, ?_, ?_⟩
  · rw [findings]
    split
    · left
      intro f member
      obtain ⟨l, -, rfl⟩ := List.mem_map.mp member
      rfl
    · split
      · right
        intro f member
        rw [List.mem_singleton.mp member]
      · left
        intro f member
        simp at member
  · rw [findings]
    split
    · simp only [List.mem_map, List.mem_filter, Bool.not_eq_true']
      rintro f ⟨l, ⟨line, notBlank⟩, rfl⟩ -
      -- a blank line would be filtered out, and the empty line is blank
      refine ⟨fun empty => ?_, isLineBreak_of_mem_splitLines line⟩
      have blank : l = "" := empty
      subst blank
      exact absurd notBlank (by decide)
    · split <;> simp

end Lint

end IacLint
