import Mathlib
import IacLint.Proofs.Resolve

/-!
# Paths through real directories

A tree kept by a file system holds one entry at each place, and every name on the way to
an entry is one a directory can hold. In such a tree the names of a directory's entries
are distinct, and a path that goes down through real directories (never through a link)
visits a different entry at every step, so it is no longer than the tree has entries.
Written below the normal form of a directory, such a path is the normal form of the
longer path.

## Main definitions

* `Tree.WellFormed` — one entry at each place, valid names only
* `FileTree` — a tree together with its well-formedness
* `Tree.Reaches` — the names of a path down through real directories to an entry
* `pathBelow` — a path of names written below a shown directory

## Main results

* `Tree.WellFormed.nodup_childNames` — a directory's names are distinct
* `Tree.Reaches.length_le` — a path through real directories is bounded by the tree
* `pathBelow_render` — a path below a normal form is the normal form of the longer path
-/

namespace IacLint.Files

namespace Tree

/-- A tree as a file system keeps one: one entry at each place, and only valid names on
the way to an entry. -/
structure WellFormed (t : Tree) : Prop where
  nodup : (t.entries.map Prod.fst).Nodup
  valid : ∀ e ∈ t.entries, ∀ n ∈ e.1, ValidName n

/-- `t.Reaches dir cs node`: from the directory at `dir`, the names `cs` go down through
real directories (never through a link) to the entry `node`. -/
inductive Reaches (t : Tree) : List String → List String → Node → Prop
  | here {dir : List String} {n : String} {node : Node} :
      t.find? (dir ++ [n]) = some node → Reaches t dir [n] node
  | down {dir cs : List String} {n : String} {node : Node} :
      t.find? (dir ++ [n]) = some .dir → Reaches t (dir ++ [n]) cs node →
        Reaches t dir (n :: cs) node

end Tree

/-- A file tree as a file system keeps one: each place holds one entry, and every name on
the way to an entry is one a directory can hold. -/
structure FileTree where
  tree : Tree
  wellFormed : tree.WellFormed

namespace Tree

variable {t : Tree} {dir cs : List String} {n : String} {node : Node}

/-! ## Entries and the names of a directory -/

theorem find?_eq_some_iff {loc : List String} (nonempty : loc ≠ []) :
    (∃ node, t.find? loc = some node) ↔ ∃ node, (loc, node) ∈ t.entries := by
  simp only [find?, List.isEmpty_iff, nonempty, if_false, Option.map_eq_some_iff]
  constructor
  · rintro ⟨node, e, found, rfl⟩
    have same := List.find?_some found
    simp only [beq_iff_eq] at same
    exact ⟨e.2, same ▸ List.mem_of_find?_eq_some found⟩
  · rintro ⟨node, member⟩
    have present : (t.entries.find? (·.1 == loc)).isSome :=
      List.find?_isSome.mpr ⟨(loc, node), member, beq_self_eq_true loc⟩
    obtain ⟨e, he⟩ := Option.isSome_iff_exists.mp present
    exact ⟨e.2, e, he, rfl⟩

theorem mem_entries_of_find? {loc : List String} (nonempty : loc ≠ [])
    (found : t.find? loc = some node) : (loc, node) ∈ t.entries := by
  simp only [find?, List.isEmpty_iff, nonempty, if_false, Option.map_eq_some_iff] at found
  obtain ⟨e, found, rfl⟩ := found
  have same := List.find?_some found
  simp only [beq_iff_eq] at same
  exact same ▸ List.mem_of_find?_eq_some found

/-- A place that a directory's name picks out is that directory's place with the name
after it. -/
theorem eq_of_mem_childName {p : List String}
    (named : n ∈ (match p.reverse with
      | last :: up => if up.reverse == dir then some last else none
      | [] => none)) : p = dir ++ [n] := by
  split at named
  · rename_i last up reversed
    simp only [Option.mem_def, Option.ite_none_right_eq_some, Option.some.injEq,
      beq_iff_eq] at named
    obtain ⟨rfl, rfl⟩ := named
    rw [← List.reverse_reverse p, reversed]
    simp
  · simp at named

theorem childNames_eq (t : Tree) (dir : List String) :
    t.childNames dir = (t.entries.map Prod.fst).filterMap fun p =>
      match p.reverse with
      | last :: up => if up.reverse == dir then some last else none
      | [] => none := by
  rw [childNames, List.filterMap_map]
  rfl

theorem mem_childNames : n ∈ t.childNames dir ↔ ∃ node, (dir ++ [n], node) ∈ t.entries := by
  rw [childNames_eq, List.mem_filterMap]
  constructor
  · rintro ⟨p, member, named⟩
    obtain ⟨⟨q, node⟩, entry, rfl⟩ := List.mem_map.mp member
    exact ⟨node, eq_of_mem_childName named ▸ entry⟩
  · rintro ⟨node, member⟩
    exact ⟨dir ++ [n], List.mem_map.mpr ⟨_, member, rfl⟩, by simp⟩

theorem mem_childNames_iff_find? :
    n ∈ t.childNames dir ↔ ∃ node, t.find? (dir ++ [n]) = some node := by
  rw [mem_childNames, find?_eq_some_iff (by simp)]

/-- With one entry at each place, a directory lists each name once. -/
theorem WellFormed.nodup_childNames (wf : t.WellFormed) (dir : List String) :
    (t.childNames dir).Nodup := by
  rw [childNames_eq]
  exact wf.nodup.filterMap fun p q n hp hq => by
    rw [eq_of_mem_childName hp, eq_of_mem_childName hq]

theorem WellFormed.validName (wf : t.WellFormed) (found : t.find? (dir ++ [n]) = some node) :
    ValidName n :=
  wf.valid _ (mem_entries_of_find? (by simp) found) n (by simp)

/-! ## Paths through real directories -/

theorem Reaches.ne_nil (reached : t.Reaches dir cs node) : cs ≠ [] := by
  cases reached <;> simp

theorem reaches_cons_iff :
    t.Reaches dir (n :: cs) node ↔
      (cs = [] ∧ t.find? (dir ++ [n]) = some node) ∨
        (t.find? (dir ++ [n]) = some .dir ∧ t.Reaches (dir ++ [n]) cs node) := by
  constructor
  · intro reached
    cases reached with
    | here found => exact .inl ⟨rfl, found⟩
    | down isDir below => exact .inr ⟨isDir, below⟩
  · rintro (⟨rfl, found⟩ | ⟨isDir, below⟩)
    · exact .here found
    · exact .down isDir below

theorem Reaches.validName (wf : t.WellFormed) (reached : t.Reaches dir cs node) :
    ∀ c ∈ cs, ValidName c := by
  induction reached with
  | here found => simpa using wf.validName found
  | down isDir _ ih =>
    intro c member
    rcases List.mem_cons.mp member with rfl | member
    · exact wf.validName isDir
    · exact ih c member

/-- Every place along a path through real directories holds an entry. -/
theorem Reaches.mem_entries (reached : t.Reaches dir cs node) :
    ∀ k < cs.length, dir ++ cs.take (k + 1) ∈ t.entries.map Prod.fst := by
  induction reached with
  | here found =>
    intro k hk
    obtain rfl : k = 0 := by simpa using hk
    exact List.mem_map.mpr ⟨_, mem_entries_of_find? (by simp) found, rfl⟩
  | @down dir cs n node isDir _ ih =>
    intro k hk
    cases k with
    | zero => exact List.mem_map.mpr ⟨_, mem_entries_of_find? (by simp) isDir, by simp⟩
    | succ k => simpa [List.take_succ_cons] using ih k (by simpa using hk)

/-- A path through real directories is no longer than the tree has entries, since each
place along it holds a different entry. -/
theorem Reaches.length_le (reached : t.Reaches dir cs node) : cs.length ≤ t.entries.length := by
  let places := (List.range cs.length).map fun k => dir ++ cs.take (k + 1)
  have distinct : places.Nodup := by
    refine List.Nodup.map_on (fun i hi j hj same => ?_) List.nodup_range
    have := congrArg List.length same
    simp only [List.length_append, List.length_take] at this
    simp only [List.mem_range] at hi hj
    omega
  have inside : places ⊆ t.entries.map Prod.fst := by
    intro p member
    obtain ⟨k, hk, rfl⟩ := List.mem_map.mp member
    exact reached.mem_entries k (List.mem_range.mp hk)
  simpa [places] using distinct.length_le_of_subset inside

end Tree

/-! ## Paths written below a directory -/

/-- The path of the names `cs` below the directory shown as `shown`. -/
def pathBelow (shown : String) (cs : List String) : String := cs.foldl join shown

theorem pathBelow_cons (shown n : String) (cs : List String) :
    pathBelow shown (n :: cs) = pathBelow (join shown n) cs := rfl

theorem segments_append {ns cs : List String} (segments : ∀ m ∈ ns, IsSegment m)
    (segments' : ∀ c ∈ cs, IsSegment c) : ∀ m ∈ ns ++ cs, IsSegment m := fun m member =>
  (List.mem_append.mp member).elim (segments m) (segments' m)

/-- A path below a normal form is the normal form of the longer path. -/
theorem pathBelow_render {a : Anchor} {ns cs : List String} (segments : ∀ m ∈ ns, IsSegment m)
    (segments' : ∀ c ∈ cs, IsSegment c) : pathBelow (render a ns) cs = render a (ns ++ cs) := by
  induction cs generalizing ns with
  | nil => simp [pathBelow]
  | cons c cs ih =>
    have longer := segments_append segments fun m last =>
      List.mem_singleton.mp last ▸ segments' c List.mem_cons_self
    rw [pathBelow_cons, join_render segments, ih longer fun m member =>
      segments' m (List.mem_cons_of_mem c member)]
    simp

/-- Below the normal form of a directory, a path through real directories to an entry that
is not a link resolves to that entry. -/
theorem Tree.Reaches.stat_render {t : Tree} {a : Anchor} {ns dir cs : List String} {node : Node}
    (wf : t.WellFormed) (reached : t.Reaches dir cs node)
    (notLink : ∀ target, node ≠ .link target)
    (segments : ∀ m ∈ ns, IsSegment m) (isDir : t.stat (render a ns) = .ok (dir, .dir)) :
    t.stat (render a (ns ++ cs)) = .ok (dir ++ cs, node) := by
  induction reached generalizing ns with
  | here found => exact t.stat_render_snoc segments isDir (wf.validName found) found notLink
  | @down dir cs n node found below ih =>
    -- the directory one name down is resolved first, and the rest of the path from it
    have valid := wf.validName found
    have isSub := t.stat_render_snoc segments isDir valid found (fun _ h => nomatch h)
    have longer := segments_append segments fun m last => List.mem_singleton.mp last ▸ valid.1
    simpa using ih notLink longer isSub

end IacLint.Files
