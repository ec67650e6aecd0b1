import Mathlib
import IacLint.Proofs.SecretErrors

/-!
# The blocks of a document

A configuration document maps each block type to its entries: a list of them, or any other
value but null as the only one. Below an entry, one key per label leads through mappings
that are not bodies to a body, the mapping with a start-line mark. The line marks are never
labels, and a body met before the last label ends the walk there with nothing found: such a
block has too few labels.

Each body found so gives one block: its type and labels, every attribute name in key order,
the names whose expression has no static value, the static values as a dictionary in which
a name assigned twice keeps its first place and its last value, and the start line when it
is an integer or a truth value. The blocks are sorted by start line, stably, so on one line
resources come before variables and each keeps the order of the document.

That is what reading gives when it can write every key it meets as text. An integer of too
many digits cannot be written, nor can a tuple or a set that holds one. Meeting one as a
label key on the walk, as the name of an attribute, or while resolving an attribute's
expression before any part without a static value, makes the whole reading fail with the
complaint of text conversion, and no block is given at all.

## Main definitions

* `LeadsTo` — the label keys that lead from an entry to a body
* `MeetsKey`, `LabelKey` — the keys the label walk meets
* `BodyReadable` — every attribute of a body can be read
* `FoundBody`, `FoundBody.In`, `FoundBody.Before` — a body of a document with where it was
  found, and document order
* `SortedStablyBy` — a stable sort by a key

## Main results

* `mem_labelledAt`, `pairwise_labelledAt` — the label walk finds each body once, in order
* `walkWritable_iff`, `documentReadable_iff` — when the keys and bodies of a document can be read
* `sortedStablyBy_mergeSort` — merge sort is a stable sort
* `blocks_of_document` — the blocks of a document
* `blocksOf_unwritable_label` — a label too long to be written makes reading fail
-/

namespace IacLint

namespace Terraform

open IacLint.Data

/-! ## The label walk -/

/-- A mapping holds a start-line mark. -/
def HasStartMark (kvs : Entries) : Prop := ∃ v, (Value.str "__start_line__", v) ∈ kvs

/-- Only the text itself is the same key as a text. -/
theorem sameKey_str_iff (k : Value) (s : String) : k.sameKey (.str s) = true ↔ k = .str s := by
  cases k <;> simp [Value.sameKey, Value.exactNumber?]

theorem hasKey_str_iff (kvs : Entries) (s : String) :
    Entries.hasKey kvs (.str s) = true ↔ ∃ v, (Value.str s, v) ∈ kvs := by
  simp only [Entries.hasKey, List.any_eq_true, sameKey_str_iff]
  constructor
  · rintro ⟨⟨k, v⟩, member, rfl⟩
    exact ⟨v, member⟩
  · rintro ⟨v, member⟩
    exact ⟨_, member, rfl⟩

/-- From a value, the entries at the places `path`, one per label, lead through mappings
without a start mark to the mapping `body`, which has one; `labels` are the unquoted keys of
those entries, none of them a line mark. -/
inductive LeadsTo : Value → List Nat → List String → Entries → Prop
  | body {kvs : Entries} (start : HasStartMark kvs) : LeadsTo (.map kvs) [] [] kvs
  | label {kvs : Entries} {i : Nat} {k v : Value} {path : List Nat} {labels : List String}
      {body : Entries} (noStart : ¬ HasStartMark kvs) (entry : kvs[i]? = some (k, v))
      (notMark : isMetaKey k = false) (below : LeadsTo v path labels body) :
      LeadsTo (.map kvs) (i :: path) (unquote k.plain :: labels) body

theorem leadsTo_nil_iff {e : Value} {labels : List String} {body : Entries} :
    LeadsTo e [] labels body ↔ e = .map body ∧ HasStartMark body ∧ labels = [] := by
  constructor
  · rintro ⟨start⟩
    exact ⟨rfl, start, rfl⟩
  · rintro ⟨rfl, start, rfl⟩
    exact .body start

theorem leadsTo_cons_iff {e : Value} {i : Nat} {path : List Nat} {labels : List String}
    {body : Entries} :
    LeadsTo e (i :: path) labels body ↔ ∃ kvs k v rest, e = .map kvs ∧ ¬ HasStartMark kvs ∧
      kvs[i]? = some (k, v) ∧ isMetaKey k = false ∧ labels = unquote k.plain :: rest ∧
      LeadsTo v path rest body := by
  constructor
  · rintro (_ | ⟨noStart, entry, notMark, below⟩)
    exact ⟨_, _, _, _, rfl, noStart, entry, notMark, rfl, below⟩
  · rintro ⟨kvs, k, v, rest, rfl, noStart, entry, notMark, rfl, below⟩
    exact .label noStart entry notMark below

/-- A mapping that a label key leads out of is no body. -/
theorem LeadsTo.not_start {kvs : Entries} {i : Nat} {path : List Nat} {labels : List String}
    {body : Entries} (leads : LeadsTo (.map kvs) (i :: path) labels body) :
    ¬ HasStartMark kvs := by
  obtain ⟨_, _, _, _, same, noStart, -⟩ := leadsTo_cons_iff.mp leads
  cases same
  exact noStart

/-- With no label left, the walk finds the value itself when it is a body. -/
theorem mem_labelledAt_zero {e : Value} {path : List Nat} {labels : List String}
    {body : Entries} :
    (path, labels, body) ∈ labelledAt 0 e ↔ LeadsTo e path labels body ∧ path.length = 0 := by
  cases path with
  | nil =>
    rw [leadsTo_nil_iff]
    cases e with
    | map kvs =>
      have marked := hasKey_str_iff kvs "__start_line__"
      simp only [labelledAt]
      split_ifs with start
      · simp only [List.mem_singleton, Prod.mk.injEq, true_and, List.length_nil, and_true]
        constructor
        · rintro ⟨rfl, rfl⟩
          exact ⟨rfl, marked.mp start, rfl⟩
        · rintro ⟨same, -, rfl⟩
          cases same
          exact ⟨rfl, rfl⟩
      · simp only [List.not_mem_nil, false_iff]
        rintro ⟨⟨same, mark, -⟩, -⟩
        cases same
        exact start (marked.mpr mark)
    | _ => simp [labelledAt]
  | cons i path =>
    cases e with
    | map kvs => simp only [labelledAt]; split_ifs <;> simp
    | _ => simp [labelledAt]

/-- The label walk finds exactly the bodies that `depth` label keys lead to. -/
theorem mem_labelledAt {depth : Nat} {e : Value} {path : List Nat} {labels : List String}
    {body : Entries} :
    (path, labels, body) ∈ labelledAt depth e ↔
      LeadsTo e path labels body ∧ path.length = depth := by
  induction depth generalizing e path labels body with
  | zero => exact mem_labelledAt_zero
  | succ depth ih =>
    cases e with
    | map kvs =>
      simp only [labelledAt]
      split_ifs with start
      · -- a body above the last level stops the walk
        simp only [List.not_mem_nil, false_iff, not_and]
        intro leads long
        cases path with
        | nil => simp at long
        | cons i path => exact leads.not_start ((hasKey_str_iff _ _).mp start)
      · cases path with
        | nil => simp [List.mem_flatMap, leadsTo_nil_iff]
        | cons i path =>
          -- one label key at place `i`, then the walk below its value
          simp only [List.mem_flatMap, List.mem_zipIdx_iff_getElem?, Prod.exists, List.length_cons,
            Nat.add_right_cancel_iff, leadsTo_cons_iff]
          constructor
          · rintro ⟨k, v, j, entry, member⟩
            split_ifs at member with mark
            · simp at member
            · obtain ⟨⟨p, rest, b⟩, inner, same⟩ := List.mem_map.mp member
              simp only [Prod.mk.injEq, List.cons.injEq] at same
              obtain ⟨⟨rfl, rfl⟩, rfl, rfl⟩ := same
              obtain ⟨leads, long⟩ := ih.mp inner
              refine ⟨⟨kvs, k, v, rest, rfl, fun marked => start ((hasKey_str_iff _ _).mpr marked),
                entry, by simpa using mark, rfl, leads⟩, long⟩
          · rintro ⟨⟨kvs', k, v, rest, same, -, entry, notMark, rfl, leads⟩, long⟩
            cases same
            refine ⟨k, v, i, entry, ?_⟩
            rw [if_neg (by simp [notMark])]
            exact List.mem_map.mpr ⟨(path, rest, body), ih.mpr ⟨leads, long⟩, rfl⟩
    | _ =>
      simp only [labelledAt, List.not_mem_nil, false_iff, not_and]
      intro leads
      cases leads

/-- The places of a list's entries increase along it. -/
theorem pairwise_zipIdx {α : Type} (l : List α) : l.zipIdx.Pairwise fun a b => a.2 < b.2 := by
  have increasing := @List.pairwise_lt_range' 0 l.length 1 (by decide)
  rw [← List.zipIdx_map_snd, List.pairwise_map] at increasing
  exact increasing

/-- The label walk finds its bodies in the order of the places of their label keys. -/
theorem pairwise_labelledAt (depth : Nat) (e : Value) :
    (labelledAt depth e).Pairwise fun x y => x.1 < y.1 := by
  induction depth generalizing e with
  | zero =>
    cases e with
    | map kvs => simp only [labelledAt]; split_ifs <;> simp
    | _ => simp [labelledAt]
  | succ depth ih =>
    cases e with
    | map kvs =>
      simp only [labelledAt]
      split_ifs
      · exact List.Pairwise.nil
      · rw [List.pairwise_flatMap]
        constructor
        · -- below one entry, the order of the walk below it
          intro a _
          split_ifs
          · exact List.Pairwise.nil
          · rw [List.pairwise_map]
            exact (ih a.1.2).imp fun earlier => List.cons_lt_cons_iff.mpr (.inr ⟨rfl, earlier⟩)
        · -- across entries, the order of the entries
          have headed : ∀ (c : (Value × Value) × Nat) z, z ∈ (if isMetaKey c.1.1 = true then []
              else (labelledAt depth c.1.2).map fun x =>
                (c.2 :: x.1, unquote c.1.1.plain :: x.2.1, x.2.2)) → ∃ rest, z.1 = c.2 :: rest := by
            intro c z member
            split_ifs at member
            · simp at member
            · obtain ⟨x, -, rfl⟩ := List.mem_map.mp member
              exact ⟨x.1, rfl⟩
          refine (pairwise_zipIdx kvs).imp fun {a b} earlier x member y member' => ?_
          obtain ⟨p, placedX⟩ := headed a x member
          obtain ⟨q, placedY⟩ := headed b y member'
          rw [placedX, placedY]
          exact List.cons_lt_cons_iff.mpr (.inl earlier)
    | _ => simp [labelledAt]

/-! ## The bodies of a document -/

/-- The `i`-th entry under a block type, given what the document holds under it: the `i`-th
element of a list, or anything else but nothing and null as the only entry. -/
def EntryAt (under : Option Value) (i : Nat) (e : Value) : Prop :=
  match under with
  | some (.list xs) => xs[i]? = some e
  | some .null | none => False
  | some v => i = 0 ∧ e = v

theorem getElem?_entriesOf (under : Option Value) (i : Nat) (e : Value) :
    (entriesOf under)[i]? = some e ↔ EntryAt under i e := by
  rcases under with _ | v
  · simp [entriesOf, EntryAt]
  · cases v <;> simp [entriesOf, EntryAt, List.getElem?_singleton, eq_comm]

/-- A block body found in a document, with where it was found: the block type, the place of
the entry under that type, and the places of the label keys below the entry. -/
structure FoundBody where
  /-- The block type. -/
  kind : String
  /-- The place of the entry under the block type. -/
  entry : Nat
  /-- The places of the label keys, one per label. -/
  path : List Nat
  /-- The unquoted label keys. -/
  labels : List String
  /-- The body. -/
  body : Entries

/-- A body of a document: under a checked block type, an entry of that type leads through as
many label keys as the type has labels to it. -/
def FoundBody.In (x : FoundBody) (doc : Entries) : Prop :=
  (x.kind, x.path.length) ∈ blockLabelCounts ∧
    ∃ e, EntryAt (Entries.get? doc x.kind) x.entry e ∧ LeadsTo e x.path x.labels x.body

/-- The place of a block type in the order the types are read. -/
def kindRank (kind : String) : Nat := blockLabelCounts.findIdx (·.1 == kind)

/-- `x` comes before `y` in the document: under an earlier block type, or under an earlier
entry of the same type, or below the same entry through earlier label keys. -/
def FoundBody.Before (x y : FoundBody) : Prop :=
  kindRank x.kind < kindRank y.kind ∨
    x.kind = y.kind ∧ (x.entry < y.entry ∨ x.entry = y.entry ∧ x.path < y.path)

/-- The bodies of a document, in document order. -/
def foundBodies (doc : Entries) : List FoundBody :=
  blockLabelCounts.flatMap fun (kind, n) =>
    (entriesOf (Entries.get? doc kind)).zipIdx.flatMap fun (e, i) =>
      (labelledAt n e).map fun (path, labels, body) => ⟨kind, i, path, labels, body⟩

theorem labelledBodies_eq (doc : Entries) :
    labelledBodies doc = (foundBodies doc).map fun x => (x.kind, x.labels, x.body) := by
  rw [labelledBodies, foundBodies, List.map_flatMap]
  refine List.flatMap_congr fun kn _ => ?_
  obtain ⟨kind, n⟩ := kn
  -- the places of the entries only tag the bodies found below them
  refine (flatMap_zipIdx_of_untagged fun ei => ?_).symm
  simp [Function.comp_def]

theorem mem_foundBodies (doc : Entries) (x : FoundBody) : x ∈ foundBodies doc ↔ x.In doc := by
  obtain ⟨kind, entry, path, labels, body⟩ := x
  simp only [foundBodies, List.mem_flatMap, List.mem_map, List.mem_zipIdx_iff_getElem?,
    getElem?_entriesOf, Prod.exists, FoundBody.mk.injEq, FoundBody.In]
  constructor
  · rintro ⟨_, n, counted, e, _, entered, _, _, _, found, rfl, rfl, rfl, rfl, rfl⟩
    obtain ⟨leads, rfl⟩ := mem_labelledAt.mp found
    exact ⟨counted, e, entered, leads⟩
  · rintro ⟨counted, e, entered, leads⟩
    exact ⟨kind, path.length, counted, e, entry, entered, path, labels, body,
      mem_labelledAt.mpr ⟨leads, rfl⟩, rfl, rfl, rfl, rfl, rfl⟩

theorem pairwise_foundBodies (doc : Entries) : (foundBodies doc).Pairwise FoundBody.Before := by
  -- the bodies found below one entry keep its type and place
  have placed : ∀ (kind : String) (n : Nat) (ei : Value × Nat) (x : FoundBody),
      x ∈ (labelledAt n ei.1).map (fun (y : List Nat × List String × Entries) =>
        (⟨kind, ei.2, y.1, y.2.1, y.2.2⟩ : FoundBody)) → x.kind = kind ∧ x.entry = ei.2 := by
    intro kind n ei x member
    obtain ⟨y, -, rfl⟩ := List.mem_map.mp member
    exact ⟨rfl, rfl⟩
  rw [foundBodies, List.pairwise_flatMap]
  constructor
  · rintro ⟨kind, n⟩ -
    rw [List.pairwise_flatMap]
    constructor
    · -- below one entry, the order of the label keys
      intro ei _
      rw [List.pairwise_map]
      exact (pairwise_labelledAt n ei.1).imp fun earlier => .inr ⟨rfl, .inr ⟨rfl, earlier⟩⟩
    · -- across entries, the order of the entries
      refine (pairwise_zipIdx _).imp fun {a b} earlier x member y member' => ?_
      obtain ⟨kindX, entryX⟩ := placed kind n a x member
      obtain ⟨kindY, entryY⟩ := placed kind n b y member'
      exact .inr ⟨kindX.trans kindY.symm, .inl (by rw [entryX, entryY]; exact earlier)⟩
  · -- across block types, resources before variables
    rw [blockLabelCounts, List.pairwise_pair]
    intro x member y member'
    obtain ⟨ei, -, inner⟩ := List.mem_flatMap.mp member
    obtain ⟨ei', -, inner'⟩ := List.mem_flatMap.mp member'
    refine .inl ?_
    rw [(placed _ _ ei x inner).1, (placed _ _ ei' y inner').1]
    decide

/-! ## The keys the label walk meets -/

/-- A key the label walk meets below a value with `depth` labels left: a key, not a line
mark, of a mapping without a start mark, or a key the walk meets below the value of such a
key. -/
inductive MeetsKey : Value → Nat → Value → Prop
  | here {kvs : Entries} {d : Nat} {k v : Value} (noStart : ¬ HasStartMark kvs)
      (entry : (k, v) ∈ kvs) (notMark : isMetaKey k = false) : MeetsKey (.map kvs) (d + 1) k
  | under {kvs : Entries} {d : Nat} {k v k' : Value} (noStart : ¬ HasStartMark kvs)
      (entry : (k, v) ∈ kvs) (notMark : isMetaKey k = false) (inner : MeetsKey v d k') :
      MeetsKey (.map kvs) (d + 1) k'

theorem meetsKey_map_iff {kvs : Entries} {d : Nat} {k : Value} (noStart : ¬ HasStartMark kvs) :
    MeetsKey (.map kvs) (d + 1) k ↔
      ∃ k' v, (k', v) ∈ kvs ∧ isMetaKey k' = false ∧ (k = k' ∨ MeetsKey v d k) := by
  constructor
  · rintro (⟨-, entry, notMark⟩ | ⟨-, entry, notMark, inner⟩)
    · exact ⟨_, _, entry, notMark, .inl rfl⟩
    · exact ⟨_, _, entry, notMark, .inr inner⟩
  · rintro ⟨k', v, entry, notMark, rfl | inner⟩
    · exact .here noStart entry notMark
    · exact .under noStart entry notMark inner

/-- A mapping the walk meets a key in is no body. -/
theorem MeetsKey.not_start {kvs : Entries} {d : Nat} {k : Value} (meets : MeetsKey (.map kvs) d k) :
    ¬ HasStartMark kvs := by
  cases meets with
  | here noStart => exact noStart
  | under noStart => exact noStart

/-- Every entry has a line mark as its key or has a property exactly when every entry whose
key is no line mark has it. -/
theorem forall_mark_or_iff {kvs : Entries} {p : Value → Value → Prop} :
    (∀ kv ∈ kvs, isMetaKey kv.1 = true ∨ p kv.1 kv.2) ↔
      ∀ k v, (k, v) ∈ kvs → isMetaKey k = false → p k v := by
  constructor
  · intro all k v entry notMark
    exact (all (k, v) entry).resolve_left (by simp [notMark])
  · intro all kv entry
    by_cases mark : isMetaKey kv.1
    · exact .inl mark
    · exact .inr (all kv.1 kv.2 entry (by simpa using mark))

/-- The label walk can write its keys exactly when every key it meets can be written. -/
theorem walkWritable_iff {depth : Nat} {e : Value} :
    walkWritable depth e = true ↔ ∀ k, MeetsKey e depth k → k.writable = true := by
  induction depth generalizing e with
  | zero =>
    -- with no label left the walk meets no key
    refine iff_of_true (by cases e <;> rfl) fun k meets => ?_
    cases meets
  | succ d ih =>
    cases e with
    | map kvs =>
      by_cases start : Entries.hasKey kvs (.str "__start_line__")
      · -- a body above the last level stops the walk before any key
        refine iff_of_true (by simp [walkWritable, start]) fun k meets => ?_
        exact (meets.not_start ((hasKey_str_iff _ _).mp start)).elim
      · have noStart : ¬ HasStartMark kvs := fun marked => start ((hasKey_str_iff _ _).mpr marked)
        simp only [walkWritable, start, Bool.false_or, List.all_eq_true, Bool.or_eq_true,
          Bool.and_eq_true, meetsKey_map_iff noStart]
        rw [forall_mark_or_iff (p := fun k v => k.writable = true ∧ walkWritable d v = true)]
        simp only [ih]
        -- each key of the mapping is met, and so is each key met below its value
        constructor
        · rintro all k ⟨k', v, entry, notMark, rfl | inner⟩
          · exact (all k v entry notMark).1
          · exact (all k' v entry notMark).2 k inner
        · intro all k v entry notMark
          exact ⟨all k ⟨k, v, entry, notMark, .inl rfl⟩,
            fun k' inner => all k' ⟨k, v, entry, notMark, .inr inner⟩⟩
    | _ =>
      refine iff_of_true rfl fun k meets => ?_
      cases meets

/-- A key the label walk of a document meets: below an entry of a checked block type, with
as many labels left as the type has. -/
def LabelKey (doc : Entries) (k : Value) : Prop :=
  ∃ kind n i e, (kind, n) ∈ blockLabelCounts ∧ EntryAt (Entries.get? doc kind) i e ∧
    MeetsKey e n k

/-! ## Bodies that can be read -/

/-- Every attribute of a body can be read: its key can be written as text, and resolving its
expression does not stop at a part that cannot be. -/
def BodyReadable (body : Entries) : Prop :=
  ∀ k v, (k, v) ∈ body → isMetaKey k = false →
    k.writable = true ∧ resolveLiteral v ≠ .error .unwritable

theorem meetsUnwritable_eq_false {e : Value} :
    meetsUnwritable e = false ↔ resolveLiteral e ≠ .error .unwritable := by
  unfold meetsUnwritable
  split <;> simp_all

theorem bodyReadable_iff {body : Entries} : bodyReadable body = true ↔ BodyReadable body := by
  simp only [bodyReadable, List.all_eq_true, Bool.or_eq_true, Bool.and_eq_true, Bool.not_eq_true',
    meetsUnwritable_eq_false, BodyReadable]
  exact forall_mark_or_iff
    (p := fun k v => k.writable = true ∧ resolveLiteral v ≠ .error .unwritable)

/-- The blocks of a document can be read exactly when every key the label walk meets can be
written and every body it finds can be read. -/
theorem documentReadable_iff {doc : Entries} :
    documentReadable doc = true ↔
      (∀ k, LabelKey doc k → k.writable = true) ∧
        ∀ x : FoundBody, x.In doc → BodyReadable x.body := by
  simp only [documentReadable, List.all_eq_true, Bool.and_eq_true]
  constructor
  · intro all
    constructor
    · rintro k ⟨kind, n, i, e, counted, entered, meets⟩
      have member : e ∈ entriesOf (Entries.get? doc kind) :=
        List.mem_of_getElem? ((getElem?_entriesOf _ i e).mpr entered)
      exact walkWritable_iff.mp (all (kind, n) counted e member).1 k meets
    · rintro ⟨kind, i, path, labels, body⟩ ⟨counted, e, entered, leads⟩
      have member : e ∈ entriesOf (Entries.get? doc kind) :=
        List.mem_of_getElem? ((getElem?_entriesOf _ i e).mpr entered)
      exact bodyReadable_iff.mp
        ((all _ counted e member).2 (path, labels, body) (mem_labelledAt.mpr ⟨leads, rfl⟩))
  · rintro ⟨keys, bodies⟩ kn counted e member
    obtain ⟨kind, n⟩ := kn
    obtain ⟨i, found⟩ := List.mem_iff_getElem?.mp member
    have entered := (getElem?_entriesOf _ i e).mp found
    refine ⟨walkWritable_iff.mpr fun k meets => keys k ⟨kind, n, i, e, counted, entered, meets⟩,
      fun x below => ?_⟩
    obtain ⟨path, labels, body⟩ := x
    obtain ⟨leads, rfl⟩ := mem_labelledAt.mp below
    exact bodyReadable_iff.mpr (bodies ⟨kind, i, path, labels, body⟩ ⟨counted, e, entered, leads⟩)

/-! ## Sorting by start line -/

/-- `ys` is `xs` sorted by `key`, stably: in order of `key`, and among equal keys in the order
of `xs`. -/
def SortedStablyBy {α : Type} (key : α → Int) (xs ys : List α) : Prop :=
  ys.Pairwise (fun a b => key a ≤ key b) ∧
    ∀ k, ys.filter (fun a => key a = k) = xs.filter (fun a => key a = k)

/-- Merge sort on a key is a stable sort by that key. -/
theorem sortedStablyBy_mergeSort {α : Type} (key : α → Int) (xs : List α) :
    SortedStablyBy key xs (xs.mergeSort fun a b => key a ≤ key b) := by
  have trans : ∀ a b c : α, decide (key a ≤ key b) = true → decide (key b ≤ key c) = true →
      decide (key a ≤ key c) = true := by
    simp only [decide_eq_true_eq]
    exact fun _ _ _ => Int.le_trans
  have total : ∀ a b : α, (decide (key a ≤ key b) || decide (key b ≤ key a)) = true := by
    intro a b
    simpa using Int.le_total (key a) (key b)
  refine ⟨(List.pairwise_mergeSort trans total xs).imp (by simp), fun k => ?_⟩
  -- the entries of one key are in order already, so the sort keeps them as a sublist, and
  -- it has as many of them as there are
  have level : (xs.filter fun a => key a = k).Pairwise fun a b => decide (key a ≤ key b) = true :=
    List.pairwise_of_forall_mem_list fun a member b member' => by
      simp only [List.mem_filter, decide_eq_true_eq] at member member'
      simp [member.2, member'.2]
  have kept := (List.sublist_mergeSort trans total level List.filter_sublist).filter
    (fun a => decide (key a = k))
  simp only [List.filter_filter, Bool.and_self] at kept
  have counted := ((List.mergeSort_perm xs fun a b => decide (key a ≤ key b)).filter
    (fun a => decide (key a = k))).length_eq
  exact (kept.eq_of_length counted.symm).symm

/-- The blocks of a document: for each body found in it, in document order (resources before
variables, then by entry, then by the places of the label keys), the block the body describes,
these blocks sorted stably by start line. Each body is found once: an entry leads to a body
through exactly as many label keys as its type has labels, none of them a line mark, through
mappings without a start mark. This is what reading gives when every key the label walk meets
can be written as text and every body it finds can be read; otherwise reading fails with the
complaint of text conversion. -/
theorem blocks_of_document (doc : Entries) :
    ∃ found : List FoundBody, (∀ x, x ∈ found ↔ x.In doc) ∧ found.Pairwise FoundBody.Before ∧
      ∃ sorted, SortedStablyBy (fun x => (startLine x.body).toInt) found sorted ∧
        blocksOf doc =
          (if documentReadable doc then .ok (sorted.map fun x => describedBlock x.kind x.labels x.body)
          else .error Number.writeLimitComplaint) ∧
        (documentReadable doc = true ↔
          (∀ k, LabelKey doc k → k.writable = true) ∧ ∀ x ∈ found, BodyReadable x.body) := by
  let sorted := (foundBodies doc).mergeSort fun a b =>
    (startLine a.body).toInt ≤ (startLine b.body).toInt
  -- sorting the bodies by start line sorts their blocks by line
  have sortedMap : sorted.map (fun x => (x.kind, x.labels, x.body)) = sortedBodies doc := by
    rw [sortedBodies, labelledBodies_eq]
    exact List.map_mergeSort fun _ _ _ _ => rfl
  have blocks : (sortedBodies doc).map blockOf =
      sorted.map fun x => describedBlock x.kind x.labels x.body := by
    rw [← sortedMap]
    exact List.map_map
  refine ⟨foundBodies doc, mem_foundBodies doc, pairwise_foundBodies doc, sorted,
    sortedStablyBy_mergeSort (fun x : FoundBody => (startLine x.body).toInt) _, ?_, ?_⟩
  · rw [blocksOf_eq, blocks]
  · simp only [documentReadable_iff, mem_foundBodies]

/-- A resource whose type label is an integer too long to be written as text gives no block:
reading the document fails with the complaint of text conversion. -/
theorem blocksOf_unwritable_label :
    blocksOf [(.str "resource", .map [(.int (Nat.pow 10 4300 : Nat), .map [(.str "b",
      .map [(.str "__start_line__", .int 1)])])])] = .error Number.writeLimitComplaint := by
  have long : Number.tooLongToWrite (Nat.pow 10 4300 : Nat) = true := by decide +kernel
  -- the number itself is never looked at again, only that it is too long
  generalize ((Nat.pow 10 4300 : Nat) : Int) = n at long ⊢
  rw [blocksOf_eq]
  simp [documentReadable, blockLabelCounts, walkWritable, Value.writable, long, Entries.get?,
    Entries.lookup, entriesOf, Value.sameKey, Value.exactNumber?, Entries.hasKey, isMetaKey]

end Terraform

end IacLint
