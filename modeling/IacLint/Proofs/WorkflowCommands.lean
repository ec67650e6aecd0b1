import Mathlib
import IacLint.Report
import IacLint.Text.Blank
import IacLint.Proofs.Escapes

/-!
# Workflow commands

A `gha` report writes each finding as a workflow command `::level file=F::message` on a
line of its own. The message is percent-escaped in five passes, the percent sign first.
Taken together the passes escape each character on its own (`%` to `%25`, carriage return
to `%0D`, line feed to `%0A`, `:` to `%3A`, `,` to `%2C`): no pass meets a character that an
earlier pass wrote, since the percent sign goes first and no code holds the character of a
later pass. So an escaped message holds no line break, colon or comma, each percent sign in
it begins a code, and reading the codes back from left to right gives the message.

A command is therefore read back from its line: the message follows the last `::`, and what
stands before it is the level and the file, even when the file itself holds `::` or ends in
a colon. When no file holds a line feed, the lines of a report are its findings' commands,
and two reports are equal only when their findings are.

## Main definitions

* `escapeWorkflowChar` — the escape of one character of a message
* `PercentCoded` — every percent sign of a text begins a code
* `unescapeWorkflow` — an escaped message read back, left to right
* `Text.splitAtFirst`, `Text.splitAtLast` — a text cut at an occurrence of a separator
* `Finding.commandHeader`, `Finding.workflowCommand` — the command of a finding, without its
  line end

## Main results

* `escapeWorkflowMessage_toList` — the five passes escape character by character
* `unescapeWorkflow_escape` — reading an escaped message back gives the message
* `Finding.splitAtLast_workflowCommand` — the message follows the last `::` of a command
* `Finding.workflowCommand_injective` — a command determines its finding
* `Outcome.render_gha_lines` — the lines of a `gha` report
* `workflow_report` — the lines of a `gha` report, read back
-/

namespace IacLint

namespace Text

/-- Replacing a single character writes each character's replacement in its place. -/
theorem replacesBy_char (x : Char) (new : List Char) :
    ReplacesBy [x] new (List.flatMap fun c => if c = x then new else [c]) := by
  refine ⟨rfl, fun c rest => ?_⟩
  by_cases same : c = x
  · subst same
    simp
  · simp [same, Ne.symm same]

theorem replaceAll_single (old new : String) (x : Char) (single : old.toList = [x]) (s : String) :
    replaceAll s old new =
      String.ofList (s.toList.flatMap fun c => if c = x then new.toList else [c]) :=
  replaceAll_eq (single ▸ replacesBy_char x new.toList) s

/-- A first piece without the separator is cut off whole, with the piece begun so far. -/
theorem splitOnCharAux_append {sep : Char} {l : List Char} (free : sep ∉ l)
    (rest cur : List Char) :
    splitOnCharAux sep (l ++ sep :: rest) cur =
      String.ofList (cur.reverse ++ l) :: splitOnCharAux sep rest [] := by
  induction l generalizing cur with
  | nil => simp [splitOnCharAux]
  | cons c l ih =>
    have kept : c ≠ sep := fun same => free (same ▸ List.mem_cons_self)
    rw [List.cons_append, splitOnCharAux, if_neg kept,
      ih (fun inside => free (List.mem_cons_of_mem c inside))]
    simp

/-- Texts each closed by a separator they do not hold are cut back into those texts, and
the empty text after the last separator. -/
theorem splitOnChar_join {sep : Char} (ls : List String) (free : ∀ l ∈ ls, sep ∉ l.toList) :
    splitOnChar (String.join (ls.map (· ++ String.singleton sep))) sep = ls ++ [""] := by
  rw [splitOnChar, String.toList_join]
  induction ls with
  | nil => simp [splitOnCharAux]
  | cons l ls ih =>
    simp only [List.map_cons, List.flatMap_cons, String.toList_append, String.toList_singleton,
      List.append_assoc, List.singleton_append]
    rw [splitOnCharAux_append (free l List.mem_cons_self),
      ih fun l' inside => free l' (List.mem_cons_of_mem l inside)]
    simp

/-- A text cut at the first occurrence of a separator: what stands before it and what
follows it, or nothing when it does not occur. -/
def splitAtFirst (sep : List Char) : List Char → Option (List Char × List Char)
  | [] => none
  | c :: rest =>
    if sep.isPrefixOf (c :: rest) then some ([], (c :: rest).drop sep.length)
    else (splitAtFirst sep rest).map (Prod.map (c :: ·) id)

/-- A text cut at the last occurrence of a separator: the first occurrence in the text read
backwards. -/
def splitAtLast (sep cs : List Char) : Option (List Char × List Char) :=
  (splitAtFirst sep.reverse cs.reverse).map fun parts => (parts.2.reverse, parts.1.reverse)

/-- The separator occurs first where it is placed when nothing before it holds its first
character. -/
theorem splitAtFirst_append {s : Char} {sep xs ys : List Char} (absent : s ∉ xs) :
    splitAtFirst (s :: sep) (xs ++ (s :: sep ++ ys)) = some (xs, ys) := by
  induction xs with
  | nil => simp [splitAtFirst, List.isPrefixOf_iff_prefix]
  | cons x xs ih =>
    have other : x ≠ s := fun same => absent (same ▸ List.mem_cons_self)
    rw [List.cons_append, splitAtFirst, if_neg (by simp [List.isPrefixOf, Ne.symm other]),
      ih fun inside => absent (List.mem_cons_of_mem x inside)]
    rfl

/-- The separator occurs last where it is placed when nothing after it holds any of its
characters. -/
theorem splitAtLast_append {sep xs ys : List Char} (nonempty : sep ≠ [])
    (absent : ∀ c ∈ ys, c ∉ sep) : splitAtLast sep (xs ++ sep ++ ys) = some (xs, ys) := by
  obtain ⟨r, rs, backwards⟩ : ∃ r rs, sep.reverse = r :: rs :=
    List.exists_cons_of_ne_nil (List.reverse_ne_nil_iff.mpr nonempty)
  have last : r ∈ sep := List.mem_reverse.mp (backwards ▸ List.mem_cons_self)
  have skipped : r ∉ ys.reverse := fun inside => absent r (List.mem_reverse.mp inside) last
  rw [splitAtLast, backwards, List.reverse_append, List.reverse_append, backwards,
    splitAtFirst_append skipped]
  simp

end Text

open Text

/-! ## Escaping a message -/

/-- The escape of one character of a workflow command's message. -/
def escapeWorkflowChar (c : Char) : List Char :=
  if c = '%' then ['%', '2', '5']
  else if c = '\r' then ['%', '0', 'D']
  else if c = '\n' then ['%', '0', 'A']
  else if c = ':' then ['%', '3', 'A']
  else if c = ',' then ['%', '2', 'C']
  else [c]

/-- The five passes escape the message character by character: each pass replaces one
character by its code, and no later pass finds its character in an earlier code. -/
theorem escapeWorkflowMessage_toList (m : String) :
    (escapeWorkflowMessage m).toList = m.toList.flatMap escapeWorkflowChar := by
  simp only [escapeWorkflowMessage, annotationEscapes, List.foldl]
  rw [replaceAll_single "," "%2C" ',' rfl, replaceAll_single ":" "%3A" ':' rfl,
    replaceAll_single "\n" "%0A" '\n' rfl, replaceAll_single "\r" "%0D" '\r' rfl,
    replaceAll_single "%" "%25" '%' rfl]
  simp only [String.toList_ofList, List.flatMap_assoc]
  congr 1
  funext c
  unfold escapeWorkflowChar
  -- the code of an escaped character passes the later passes unchanged, and any other
  -- character is left alone by every pass
  split_ifs with percent cr lf colon comma
  · subst percent
    rfl
  · subst cr
    rfl
  · subst lf
    rfl
  · subst colon
    rfl
  · subst comma
    rfl
  · simp only [List.flatMap_cons, List.flatMap_nil, List.append_nil, cr, lf, colon, comma,
      if_false]

example : escapeWorkflowMessage "50%: done,\r\n" = "50%25%3A done%2C%0D%0A" := by decide

/-- No character of an escape breaks a line or is a colon or a comma. -/
theorem not_special_of_mem_escapeWorkflowChar {c d : Char} (inside : d ∈ escapeWorkflowChar c) :
    d ≠ '\r' ∧ d ≠ '\n' ∧ d ≠ ':' ∧ d ≠ ',' := by
  unfold escapeWorkflowChar at inside
  split_ifs at inside <;> simp at inside <;> rcases inside with rfl | rfl | rfl <;> simp_all

theorem not_special_of_mem_escapeWorkflowMessage {m : String} {d : Char}
    (inside : d ∈ (escapeWorkflowMessage m).toList) :
    d ≠ '\r' ∧ d ≠ '\n' ∧ d ≠ ':' ∧ d ≠ ',' := by
  rw [escapeWorkflowMessage_toList, List.mem_flatMap] at inside
  obtain ⟨c, -, escaped⟩ := inside
  exact not_special_of_mem_escapeWorkflowChar escaped

/-! ## Percent signs begin codes -/

/-- Every percent sign of a text begins the code of one of the escapes. -/
def PercentCoded (cs : List Char) : Prop :=
  ∀ pre post, cs = pre ++ '%' :: post → ∃ e ∈ annotationEscapes, e.2.toList <+: '%' :: post

theorem PercentCoded.nil : PercentCoded [] := by
  intro pre post split
  simp at split

/-- A percent sign of a joined text lies in one part, and a code it begins there it
begins in the whole. -/
theorem PercentCoded.append {xs ys : List Char} (left : PercentCoded xs) (right : PercentCoded ys) :
    PercentCoded (xs ++ ys) := by
  intro pre post split
  rcases List.append_eq_append_iff.mp split with ⟨mid, rfl, later⟩ | ⟨mid, earlier, tail⟩
  · exact right mid post later
  · cases mid with
    | nil => exact right [] post (by simpa using tail.symm)
    | cons m mid =>
      obtain ⟨rfl, rfl⟩ := List.cons_eq_cons.mp tail
      obtain ⟨e, entry, coded⟩ := left pre mid earlier
      exact ⟨e, entry, coded.trans (List.prefix_append _ _)⟩

theorem percentCoded_escapeWorkflowChar (c : Char) : PercentCoded (escapeWorkflowChar c) := by
  intro pre post split
  unfold escapeWorkflowChar at split
  -- a code's percent sign is its first character, and a kept character is no percent sign
  split_ifs at split <;> rcases pre with _ | ⟨p, _ | ⟨q, _ | ⟨r, pre⟩⟩⟩ <;>
    simp_all [annotationEscapes]

theorem percentCoded_escapeWorkflowMessage (m : String) :
    PercentCoded (escapeWorkflowMessage m).toList := by
  rw [escapeWorkflowMessage_toList]
  induction m.toList with
  | nil => exact PercentCoded.nil
  | cons c cs ih => exact (percentCoded_escapeWorkflowChar c).append ih

/-! ## Reading a message back -/

/-- The character a code after a percent sign stands for. -/
def codeChar? : Char → Char → Option Char
  | '2', '5' => some '%'
  | '0', 'D' => some '\r'
  | '0', 'A' => some '\n'
  | '3', 'A' => some ':'
  | '2', 'C' => some ','
  | _, _ => none

/-- An escaped message read back from left to right: each code becomes its character, and
every other character stays. -/
def unescapeWorkflow : List Char → List Char
  | '%' :: a :: b :: rest =>
    match codeChar? a b with
    | some c => c :: unescapeWorkflow rest
    | none => '%' :: unescapeWorkflow (a :: b :: rest)
  | c :: rest => c :: unescapeWorkflow rest
  | [] => []

theorem unescapeWorkflow_escapeWorkflowChar (c : Char) (rest : List Char) :
    unescapeWorkflow (escapeWorkflowChar c ++ rest) = c :: unescapeWorkflow rest := by
  unfold escapeWorkflowChar
  -- a code is read as the character it stands for; a kept character, no percent sign, stays
  split_ifs <;> simp_all [unescapeWorkflow, codeChar?]

theorem unescapeWorkflow_flatMap (cs : List Char) :
    unescapeWorkflow (cs.flatMap escapeWorkflowChar) = cs := by
  induction cs with
  | nil => rfl
  | cons c cs ih => rw [List.flatMap_cons, unescapeWorkflow_escapeWorkflowChar, ih]

theorem unescapeWorkflow_escape (m : String) :
    unescapeWorkflow (escapeWorkflowMessage m).toList = m.toList := by
  rw [escapeWorkflowMessage_toList, unescapeWorkflow_flatMap]

/-! ## Commands of findings -/

/-- Distinct severities have level words that differ from the first letter, so a level word
followed by anything determines the severity and what follows. -/
theorem annotationLevel_append_inj {s s' : Severity} {r r' : List Char}
    (same : (annotationLevel s).toList ++ r = (annotationLevel s').toList ++ r') :
    s = s' ∧ r = r' := by
  cases s <;> cases s' <;> simp_all [annotationLevel]

theorem annotationLevel_injective : Function.Injective annotationLevel := fun s s' same =>
  (@annotationLevel_append_inj s s' [] [] (by rw [same])).1

namespace Finding

/-- What a finding's workflow command writes before its message: the level and the file. -/
def commandHeader (f : Finding) : String := "::" ++ annotationLevel f.severity ++ " file=" ++ f.file

/-- The workflow command of a finding, without its line end. -/
def workflowCommand (f : Finding) : String :=
  f.commandHeader ++ "::" ++ escapeWorkflowMessage f.message

theorem ghaLine_eq (f : Finding) : f.ghaLine = f.workflowCommand ++ String.singleton '\n' := rfl

/-- The message of a command follows the last `::`: the escaped message holds no colon. -/
theorem splitAtLast_workflowCommand (f : Finding) :
    splitAtLast [':', ':'] f.workflowCommand.toList =
      some (f.commandHeader.toList, (escapeWorkflowMessage f.message).toList) := by
  have colonFree : ∀ c ∈ (escapeWorkflowMessage f.message).toList, c ∉ [':', ':'] :=
    fun c inside => by simpa using (not_special_of_mem_escapeWorkflowMessage inside).2.2.1
  rw [workflowCommand, String.toList_append, String.toList_append]
  exact splitAtLast_append (by simp) colonFree

theorem workflowCommand_injective : Function.Injective workflowCommand := by
  intro f g same
  have cut := splitAtLast_workflowCommand f
  rw [same, splitAtLast_workflowCommand g] at cut
  obtain ⟨headers, escapes⟩ := Prod.mk.inj (Option.some.inj cut)
  have messages : g.message = f.message := by
    rw [← String.toList_inj, ← unescapeWorkflow_escape g.message, escapes,
      unescapeWorkflow_escape]
  -- past the leading `::`, the level word settles the severity and then the file
  simp only [commandHeader, String.toList_append, List.append_assoc,
    List.append_cancel_left_eq] at headers
  obtain ⟨severities, files⟩ := annotationLevel_append_inj headers
  rw [List.append_cancel_left_eq, String.toList_inj] at files
  cases f
  cases g
  simp_all

theorem lineFeed_not_mem_workflowCommand {f : Finding} (oneLine : '\n' ∉ f.file.toList) :
    '\n' ∉ f.workflowCommand.toList := by
  have level : '\n' ∉ (annotationLevel f.severity).toList := by
    cases f.severity <;> simp [annotationLevel]
  have escaped : '\n' ∉ (escapeWorkflowMessage f.message).toList :=
    fun inside => (not_special_of_mem_escapeWorkflowMessage inside).2.1 rfl
  simp [workflowCommand, commandHeader, level, oneLine, escaped]

end Finding

namespace Outcome

/-- The lines of a `gha` report are the commands of its findings, in order, each closed by
a line feed, when no file holds a line feed. -/
theorem render_gha_lines (r : Outcome) (oneLine : ∀ f ∈ r.findings, '\n' ∉ f.file.toList) :
    splitOnChar (r.render .gha) '\n' = r.findings.map Finding.workflowCommand ++ [""] := by
  have commands : r.findings.map Finding.ghaLine =
      (r.findings.map Finding.workflowCommand).map (· ++ String.singleton '\n') := by
    simp [Function.comp_def, Finding.ghaLine_eq]
  rw [render, commands, splitOnChar_join]
  simp only [List.mem_map]
  rintro l ⟨f, member, rfl⟩
  exact Finding.lineFeed_not_mem_workflowCommand (oneLine f member)

/-- A `gha` report determines its findings, when no file holds a line feed. -/
theorem render_gha_injective {r r' : Outcome}
    (oneLine : ∀ f ∈ r.findings, '\n' ∉ f.file.toList)
    (oneLine' : ∀ f ∈ r'.findings, '\n' ∉ f.file.toList)
    (same : r'.render .gha = r.render .gha) :
    r'.findings = r.findings := by
  have lines := render_gha_lines r' oneLine'
  rw [same, render_gha_lines r oneLine] at lines
  exact List.map_injective_iff.mpr Finding.workflowCommand_injective
    (List.append_cancel_right lines).symm

end Outcome

/-- A `gha` report of findings whose files hold no line feed: its lines are the findings'
commands in order, `::level file=F::message`, each closed by a line feed; the level word
tells the severities apart; the escaped message holds no line break, colon or comma, its
percent signs each begin a code, and reading the codes back gives the message; what stands
before the last `::` of a line is the level and the file; and the report determines the
findings. -/
theorem workflow_report (r : Outcome) (oneLine : ∀ f ∈ r.findings, '\n' ∉ f.file.toList) :
    splitOnChar (r.render .gha) '\n' = r.findings.map Finding.workflowCommand ++ [""] ∧
    Function.Injective annotationLevel ∧
    (∀ m : String, ∀ d ∈ (escapeWorkflowMessage m).toList,
      d ≠ '\r' ∧ d ≠ '\n' ∧ d ≠ ':' ∧ d ≠ ',') ∧
    (∀ m : String, PercentCoded (escapeWorkflowMessage m).toList) ∧
    (∀ m : String, unescapeWorkflow (escapeWorkflowMessage m).toList = m.toList) ∧
    (∀ f ∈ r.findings, splitAtLast [':', ':'] f.workflowCommand.toList =
      some (f.commandHeader.toList, (escapeWorkflowMessage f.message).toList)) ∧
    ∀ r' : Outcome, (∀ f ∈ r'.findings, '\n' ∉ f.file.toList) →
      r'.render .gha = r.render .gha → r'.findings = r.findings :=
  ⟨r.render_gha_lines oneLine, annotationLevel_injective,
    fun _ _ inside => not_special_of_mem_escapeWorkflowMessage inside,
    percentCoded_escapeWorkflowMessage, unescapeWorkflow_escape,
    fun f _ => f.splitAtLast_workflowCommand,
    fun _ oneLine' same => Outcome.render_gha_injective oneLine oneLine' same⟩

/-- A report whose file holds `::` and ends in a colon, with every escaped character in its
message, still has one line per finding. -/
theorem workflow_report_colons :
    (∀ f ∈ [Finding.mk "a::b:" .error "50%: done,\r\n", Finding.mk "x" .info ""],
      '\n' ∉ f.file.toList) ∧
    splitOnChar (({ findings := [Finding.mk "a::b:" .error "50%: done,\r\n",
        Finding.mk "x" .info ""] } : Outcome).render .gha) '\n' =
      [Finding.workflowCommand ⟨"a::b:", .error, "50%: done,\r\n"⟩,
        Finding.workflowCommand ⟨"x", .info, ""⟩, ""] :=
  ⟨by decide, (workflow_report { findings := [Finding.mk "a::b:" .error "50%: done,\r\n",
      Finding.mk "x" .info ""] } (by decide)).1⟩

end IacLint
