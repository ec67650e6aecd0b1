import Mathlib
import IacLint.Files.Tree
import IacLint.Proofs.PathForm

/-!
# Resolving paths through real directories

Resolving a path reads its names one at a time from the top. Resolution is compositional:
once the first names of a path have led to a directory, the rest of the path is resolved
from that directory, with the links already followed still counted. Below a directory
reached this way, a name that is a directory or a file of the tree leads to exactly that
entry. Together these say that a path written below the normal form of a directory, one
name more, resolves to the entry of that name, which is what the walk over a tree relies
on to find its files.

## Main definitions

* `ValidName` — a name a directory can hold

## Main results

* `Tree.locateFrom_append` — resolution continues from the directory a prefix leads to
* `Tree.stat_render_nil` — a normal form without names is the top directory
* `Tree.stat_render_snoc` — one more name below a directory leads to its entry
-/

namespace IacLint.Files

/-- A name a directory can hold: not empty, not `.` or `..`, and without `/`. -/
def ValidName (n : String) : Prop := IsSegment n ∧ n ≠ ".."

instance : DecidablePred ValidName := fun n =>
  inferInstanceAs (Decidable ((n ≠ "" ∧ n ≠ "." ∧ '/' ∉ n.toList) ∧ n ≠ ".."))

namespace Tree

variable (t : Tree)

/-- Once the first names `xs` of a path have led to a directory, the rest of the path is
resolved from that directory, with the links followed so far counted. -/
theorem locateFrom_append {links : Nat} {cur xs loc : List String} {follow : Bool}
    (h : t.locateFrom links cur xs follow = .ok (loc, some .dir)) :
    ∃ k, ∀ ys, t.locateFrom links cur (xs ++ ys) follow = t.locateFrom k loc ys follow := by
  fun_induction t.locateFrom links cur xs follow with
  | case1 links cur follow =>
    obtain ⟨rfl, -⟩ := Prod.mk.inj (Except.ok.inj h)
    exact ⟨links, fun ys => rfl⟩
  | case2 links cur c rest follow skip ih =>
    obtain ⟨k, hk⟩ := ih h
    exact ⟨k, fun ys => by rw [List.cons_append, locateFrom, if_pos skip, hk]⟩
  | case3 links cur c rest follow noskip up ih =>
    obtain ⟨k, hk⟩ := ih h
    exact ⟨k, fun ys => by rw [List.cons_append, locateFrom, if_neg noskip, if_pos up, hk]⟩
  -- the other ways a resolution ends give no directory
  | case4 | case5 | case7 | case8 | case9 | case10 | case12 => simp at h
  | case6 links cur c rest follow noskip noup here dir ih =>
    obtain ⟨k, hk⟩ := ih h
    refine ⟨k, fun ys => ?_⟩
    rw [List.cons_append, locateFrom, if_neg noskip, if_neg noup]
    simp only [show t.find? (cur ++ [c]) = some .dir from dir]
    exact hk ys
  | case11 links cur c rest follow noskip noup here target link followed below absolute ih =>
    obtain ⟨k, hk⟩ := ih h
    refine ⟨k, fun ys => ?_⟩
    -- a link followed before the rest is still followed with more names after it
    have still : ((rest ++ ys).isEmpty && !follow) = false := by
      cases follow <;> simp_all
    rw [List.cons_append, locateFrom, if_neg noskip, if_neg noup]
    simp only [show t.find? (cur ++ [c]) = some (.link target) from link, still, if_pos below,
      Bool.false_eq_true, if_false, if_neg absolute, ← List.append_assoc]
    exact hk ys

/-- Empty pieces, such as the leading slashes of a path, are passed over. -/
theorem locateFrom_lead (a : Anchor) {links : Nat} {cur : List String} (xs : List String)
    (follow : Bool) : t.locateFrom links cur (a.lead ++ xs) follow =
      t.locateFrom links cur xs follow := by
  cases a <;> simp [Anchor.lead, locateFrom]

/-- From a directory, a valid name that is a directory or a file of the tree leads to
that entry. -/
theorem locateFrom_name {links : Nat} {cur : List String} {c : String} {node : Node}
    (valid : ValidName c) (found : t.find? (cur ++ [c]) = some node)
    (notLink : ∀ target, node ≠ .link target) (follow : Bool) :
    t.locateFrom links cur [c] follow = .ok (cur ++ [c], some node) := by
  obtain ⟨⟨empty, dot, -⟩, up⟩ := valid
  have skip : (c == "" || c == ".") = false := by simp [empty, dot]
  have noup : (c == "..") = false := by simp [up]
  rw [locateFrom, skip, noup]
  cases node with
  | dir => simp [found, locateFrom]
  | file bs x => simp [found]
  | link target => exact absurd rfl (notLink target)

theorem stat_eq_ok_iff {p : String} {loc : List String} {node : Node} :
    t.stat p = .ok (loc, node) ↔
      t.locate [] (Text.splitOnChar p '/') true = .ok (loc, some node) := by
  unfold stat
  split <;> simp_all

/-- A normal form without names (`.`, `/` or `//`) is the top directory. -/
theorem stat_render_nil (a : Anchor) : t.stat (render a []) = .ok ([], .dir) := by
  cases a <;> simp [stat, locate, render, Anchor.text, Text.splitOnChar, Text.splitOnCharAux,
    locateFrom, find?]

/-- Below the normal form of a directory, one valid name more leads to the entry of that
name when it is a directory or a file. -/
theorem stat_render_snoc {a : Anchor} {ns dir : List String} {c : String} {node : Node}
    (segments : ∀ n ∈ ns, IsSegment n) (isDir : t.stat (render a ns) = .ok (dir, .dir))
    (valid : ValidName c) (found : t.find? (dir ++ [c]) = some node)
    (notLink : ∀ target, node ≠ .link target) :
    t.stat (render a (ns ++ [c])) = .ok (dir ++ [c], node) := by
  have segments' : ∀ n ∈ ns ++ [c], IsSegment n := fun n member =>
    (List.mem_append.mp member).elim (segments n) fun last => List.mem_singleton.mp last ▸ valid.1
  rw [stat_eq_ok_iff, locate, splitOnChar_render (by simp) segments', locateFrom_lead]
  by_cases nonempty : ns = []
  · subst nonempty
    rw [stat_render_nil] at isDir
    obtain ⟨rfl, -⟩ := Prod.mk.inj (Except.ok.inj isDir)
    exact t.locateFrom_name valid found notLink true
  · rw [stat_eq_ok_iff, locate, splitOnChar_render nonempty segments, locateFrom_lead] at isDir
    obtain ⟨k, continues⟩ := t.locateFrom_append isDir
    rw [continues]
    exact t.locateFrom_name valid found notLink true

end Tree

end IacLint.Files
