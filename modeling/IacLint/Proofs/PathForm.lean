import Mathlib
import IacLint.Files.Path

/-!
# Normal forms of paths

A path in normal form is its leading slashes (none, one, or exactly two) followed by its
names joined by single slashes, or `.` when there is nothing. Every normal form is
`render a ns` for its anchor `a` and its names `ns`, and the names of a normal form are
segments: neither empty nor `.`, and free of `/`.

Normal forms are stable: normalizing one changes nothing, and a name placed below one by
`join` gives the normal form with one more name. Splitting a normal form at its slashes
gives back the empty pieces of the anchor followed by the names, which is how resolving
the path reads it.

## Main definitions

* `IsSegment` — a name a normal form keeps
* `Anchor` — the leading slashes of a normal form
* `render` — the normal form with an anchor and names

## Main results

* `normalize_eq_render` — the normal form of any path, as anchor and names
* `normalize_render` — a normal form is its own normal form
* `join_render` — a name below a normal form is one more name
* `splitOnChar_render` — the pieces of a normal form between slashes
-/

namespace IacLint.Text

theorem splitOnCharAux_of_not_mem {sep : Char} {cs : List Char} (h : sep ∉ cs)
    (cur : List Char) : splitOnCharAux sep cs cur = [String.ofList (cur.reverse ++ cs)] := by
  induction cs generalizing cur with
  | nil => simp [splitOnCharAux]
  | cons c cs ih =>
    rw [List.mem_cons, not_or] at h
    rw [splitOnCharAux, if_neg (Ne.symm h.1), ih h.2]
    simp

theorem splitOnCharAux_append_sep {sep : Char} {cs : List Char} (h : sep ∉ cs)
    (rest cur : List Char) :
    splitOnCharAux sep (cs ++ sep :: rest) cur =
      String.ofList (cur.reverse ++ cs) :: splitOnCharAux sep rest [] := by
  induction cs generalizing cur with
  | nil => simp [splitOnCharAux]
  | cons c cs ih =>
    rw [List.mem_cons, not_or] at h
    rw [List.cons_append, splitOnCharAux, if_neg (Ne.symm h.1), ih h.2]
    simp

/-- No piece holds the separator. -/
theorem not_mem_of_mem_splitOnCharAux {sep : Char} {cs cur : List Char} (hcur : sep ∉ cur) :
    ∀ s ∈ splitOnCharAux sep cs cur, sep ∉ s.toList := by
  induction cs generalizing cur with
  | nil => simpa [splitOnCharAux] using hcur
  | cons c cs ih =>
    rw [splitOnCharAux]
    split
    · intro s member
      rcases List.mem_cons.mp member with rfl | member
      · simpa using hcur
      · exact ih List.not_mem_nil s member
    · rename_i different
      exact ih (by simp [hcur, Ne.symm different])

/-- Pieces without the separator, joined by it, split back into themselves. -/
theorem splitOnChar_intercalate {sep : Char} {ns : List String} (nonempty : ns ≠ [])
    (free : ∀ n ∈ ns, sep ∉ n.toList) :
    splitOnChar ((String.singleton sep).intercalate ns) sep = ns := by
  induction ns with
  | nil => exact absurd rfl nonempty
  | cons n ns ih =>
    have hn : sep ∉ n.toList := free n List.mem_cons_self
    cases ns with
    | nil => simp [splitOnChar, splitOnCharAux_of_not_mem hn]
    | cons m ms =>
      have rest := ih (List.cons_ne_nil m ms) fun k hk => free k (List.mem_cons_of_mem n hk)
      rw [splitOnChar] at rest ⊢
      rw [String.intercalate_cons_cons, String.toList_append, String.toList_append,
        String.toList_singleton, List.append_assoc, List.singleton_append,
        splitOnCharAux_append_sep hn, rest]
      simp

end IacLint.Text

namespace IacLint.Files

/-- A name a normal form keeps between slashes: not empty, not `.`, and without `/`. -/
def IsSegment (n : String) : Prop := n ≠ "" ∧ n ≠ "." ∧ '/' ∉ n.toList

/-- The leading slashes of a normal form: none, one, or exactly two. -/
inductive Anchor where
  | relative
  | root
  | doubleRoot
  deriving DecidableEq

namespace Anchor

/-- The slashes an anchor writes. -/
def text : Anchor → String
  | .relative => ""
  | .root => "/"
  | .doubleRoot => "//"

/-- The empty pieces that splitting a normal form at `/` gives before its names. -/
def lead : Anchor → List String
  | .relative => []
  | .root => [""]
  | .doubleRoot => ["", ""]

/-- The anchor a path starts with, as its normal form keeps it. -/
def ofPath (p : String) : Anchor :=
  match p.toList with
  | '/' :: '/' :: '/' :: _ => .root
  | '/' :: '/' :: _ => .doubleRoot
  | '/' :: _ => .root
  | _ => .relative

theorem anchor_eq (p : String) : anchor p = (ofPath p).text := by
  unfold anchor ofPath
  split <;> simp_all [text]

end Anchor

/-- The normal form with an anchor and names. -/
def render (a : Anchor) (ns : List String) : String :=
  if ns = [] then (if a = .relative then "." else a.text) else a.text ++ "/".intercalate ns

theorem parts_isSegment (p : String) : ∀ n ∈ parts p, IsSegment n := by
  intro n member
  simp only [parts, List.mem_filter, Bool.and_eq_true, bne_iff_ne] at member
  exact ⟨member.2.1, member.2.2, Text.not_mem_of_mem_splitOnCharAux List.not_mem_nil n member.1⟩

section Render

variable {a : Anchor} {ns : List String}

/-- Names that are segments, joined by slashes, start with a character other than a
slash. -/
theorem intercalate_toList (nonempty : ns ≠ []) (segments : ∀ n ∈ ns, IsSegment n) :
    ∃ c cs, ("/".intercalate ns).toList = c :: cs ∧ c ≠ '/' := by
  obtain ⟨m, ms, rfl⟩ := List.exists_cons_of_ne_nil nonempty
  obtain ⟨empty, -, free⟩ := segments m List.mem_cons_self
  obtain ⟨c, cs, hm⟩ := List.exists_cons_of_ne_nil (mt String.toList_eq_nil_iff.mp empty)
  have hc : c ≠ '/' := fun h => free (h ▸ hm ▸ List.mem_cons_self)
  cases ms with
  | nil => exact ⟨c, cs, by simpa using hm, hc⟩
  | cons m' ms =>
    refine ⟨c, cs ++ ("/" ++ "/".intercalate (m' :: ms)).toList, ?_, hc⟩
    rw [String.intercalate_cons_cons, String.append_assoc, String.toList_append, hm]
    rfl

theorem intercalate_eq_empty_iff (segments : ∀ n ∈ ns, IsSegment n) :
    "/".intercalate ns = "" ↔ ns = [] := by
  refine ⟨fun empty => ?_, fun h => h ▸ String.intercalate_nil⟩
  by_contra nonempty
  obtain ⟨c, cs, hcs, -⟩ := intercalate_toList nonempty segments
  simp [empty] at hcs

/-- Splitting a normal form with names at its slashes gives the anchor's empty pieces,
then the names. -/
theorem splitOnChar_render (nonempty : ns ≠ []) (segments : ∀ n ∈ ns, IsSegment n) :
    Text.splitOnChar (render a ns) '/' = a.lead ++ ns := by
  have names : Text.splitOnChar ((String.singleton '/').intercalate ns) '/' = ns :=
    Text.splitOnChar_intercalate nonempty fun n member => (segments n member).2.2
  simp only [Text.splitOnChar, String.toList_intercalate, String.toList_singleton] at names
  simp only [Text.splitOnChar, render, if_neg nonempty]
  cases a <;> simp [Anchor.text, Anchor.lead, Text.splitOnCharAux, names]

theorem ofPath_render (segments : ∀ n ∈ ns, IsSegment n) : Anchor.ofPath (render a ns) = a := by
  by_cases nonempty : ns = []
  · subst nonempty
    cases a <;> rfl
  · obtain ⟨c, cs, hcs, hc⟩ := intercalate_toList nonempty segments
    simp only [Anchor.ofPath, render, if_neg nonempty, String.toList_append, hcs]
    cases a <;> simp [Anchor.text, hc]

theorem parts_render (segments : ∀ n ∈ ns, IsSegment n) : parts (render a ns) = ns := by
  by_cases nonempty : ns = []
  · subst nonempty
    cases a <;> decide
  · rw [parts, splitOnChar_render nonempty segments, List.filter_append]
    have kept : ns.filter (fun s => s != "" && s != ".") = ns :=
      List.filter_eq_self.mpr fun n member => by
        simp [(segments n member).1, (segments n member).2.1]
    cases a <;> simp [Anchor.lead, kept]

/-- The normal form of any path is written with its anchor and its names. -/
theorem normalize_eq_render (p : String) :
    normalize p = render (Anchor.ofPath p) (parts p) := by
  have empty := intercalate_eq_empty_iff (parts_isSegment p)
  unfold normalize render
  rw [Anchor.anchor_eq]
  by_cases nonempty : parts p = []
  · cases Anchor.ofPath p <;> simp [nonempty, Anchor.text]
  · cases Anchor.ofPath p <;> simp [nonempty, Anchor.text, empty]

/-- A normal form is its own normal form. -/
theorem normalize_render (segments : ∀ n ∈ ns, IsSegment n) :
    normalize (render a ns) = render a ns := by
  rw [normalize_eq_render, ofPath_render segments, parts_render segments]

/-- A normal form determines its names. -/
theorem render_injective {ms : List String} (segments : ∀ n ∈ ns, IsSegment n)
    (segments' : ∀ n ∈ ms, IsSegment n) (same : render a ns = render a ms) : ns = ms := by
  rw [← parts_render segments, same, parts_render segments']

theorem endsWith_slash_iff {s : String} :
    s.endsWith "/" = true ↔ s.toList.getLast? = some '/' := by
  simp [← String.endsWith_toSlice, List.singleton_suffix_iff_getLast?_eq_some]

/-- A normal form with names ends in its last name, so not in a slash. -/
theorem render_not_endsWith (nonempty : ns ≠ []) (segments : ∀ n ∈ ns, IsSegment n) :
    (render a ns).endsWith "/" = false := by
  obtain ⟨init, last, rfl⟩ := (List.eq_nil_or_concat ns).resolve_left nonempty
  rw [List.concat_eq_append] at segments ⊢
  obtain ⟨empty, -, free⟩ := segments last (by simp)
  have ends : ∃ pre, render a (init ++ [last]) = pre ++ last := by
    by_cases hinit : init = []
    · exact ⟨a.text, by simp [render, hinit]⟩
    · refine ⟨a.text ++ "/".intercalate init ++ "/", ?_⟩
      simp [render, String.intercalate_append_of_ne_nil hinit, String.append_assoc]
  obtain ⟨pre, hpre⟩ := ends
  rw [Bool.eq_false_iff, ne_eq, endsWith_slash_iff, hpre, String.toList_append,
    List.getLast?_append_of_ne_nil _ (mt String.toList_eq_nil_iff.mp empty)]
  intro h
  exact free (List.mem_of_getLast? h)

theorem render_ne_dot (nonempty : ns ≠ []) (segments : ∀ n ∈ ns, IsSegment n) :
    render a ns ≠ "." := by
  intro dot
  have split := splitOnChar_render (a := a) nonempty segments
  rw [dot, show Text.splitOnChar "." '/' = ["."] by decide] at split
  cases a with
  | relative =>
    rw [Anchor.lead, List.nil_append] at split
    exact (segments "." (split ▸ List.mem_singleton_self _)).2.1 rfl
  | root => simp [Anchor.lead] at split
  | doubleRoot => simp [Anchor.lead] at split

/-- A name below a normal form gives the normal form with one more name. -/
theorem join_render (segments : ∀ n ∈ ns, IsSegment n) (n : String) :
    join (render a ns) n = render a (ns ++ [n]) := by
  by_cases nonempty : ns = []
  · subst nonempty
    cases a <;> simp [join, render, Anchor.text, ← String.endsWith_toSlice]
  · rw [join, if_neg (by simpa using render_ne_dot nonempty segments),
      render_not_endsWith nonempty segments]
    simp [render, nonempty, String.intercalate_append_of_ne_nil nonempty, String.append_assoc]

end Render

end IacLint.Files
