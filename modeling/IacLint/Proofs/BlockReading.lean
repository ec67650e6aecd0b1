import Mathlib
import IacLint.Terraform.Block

/-!
# Reading the blocks of a document

The blocks of a document are read in stages: the label walk below each entry, the block of
each body the walk finds, and the resolving of each attribute's expression. Every stage writes
keys or values as text, and every stage can fail, always with the one complaint of text
conversion about an integer of too many digits. So each stage is described here by the test
under which it succeeds and by what it then gives, and a run over a list of such steps
succeeds exactly when each of its steps does, whichever fails first.

When every attribute of a body can be read, its block holds every attribute name in key
order; the names whose expression has no static value; the static values as a dictionary in
which a name assigned twice keeps its first place and its last value; and the start line.

## Main definitions

* `meetsUnwritable` — resolving an expression stops at a part that cannot be written
* `assigned` — the dictionary that assigning pairs in order gives
* `attributeList`, `recorded`, `describedBlock` — the attributes of a body and the block they give
* `bodyReadable` — every attribute of a body can be read
* `labelledAt`, `walkWritable` — the label walk when it can write its keys, and whether it can
* `labelledBodies`, `sortedBodies` — the bodies of a document, in document and in block order
* `documentReadable` — every label key and every body of a document can be read

## Main results

* `mapM_eq_ite`, `flatMapM_eq_ite` — runs whose steps fail with one complaint
* `resolveLiteral_list_eq_ok`, `resolveLiteral_map_eq_ok` — what lists and mappings resolve to
* `addAttribute_recorded`, `ofBody_eq` — recording one attribute, and the block of a body
* `labelled_eq` — the label walk
* `blocksOf_eq` — the blocks of a document
-/

namespace IacLint

namespace Terraform

open IacLint.Data

/-! ## Runs that fail with one complaint -/

section Runs

variable {ε α β : Type} {c : ε}

/-- A run over a list whose steps each give a value or fail with the complaint `c` gives every
value when each step succeeds, and fails with `c` otherwise. -/
theorem mapM_eq_ite (ok : α → Bool) (value : α → β) {f : α → Except ε β} {l : List α}
    (each : ∀ x ∈ l, f x = if ok x then .ok (value x) else .error c) :
    l.mapM f = if l.all ok then .ok (l.map value) else .error c := by
  induction l with
  | nil => rfl
  | cons x l ih =>
    have rest := ih fun y member => each y (List.mem_cons_of_mem x member)
    rw [List.mapM_cons, each x List.mem_cons_self, rest, List.all_cons]
    by_cases good : ok x <;> by_cases others : l.all ok <;>
      simp [good, others, bind, Except.bind, pure, Except.pure]

/-- The same for a run whose steps give lists, joined in order. -/
theorem flatMapM_eq_ite (ok : α → Bool) (value : α → List β) {f : α → Except ε (List β)}
    {l : List α} (each : ∀ x ∈ l, f x = if ok x then .ok (value x) else .error c) :
    l.flatMapM f = if l.all ok then .ok (l.flatMap value) else .error c := by
  induction l with
  | nil => rfl
  | cons x l ih =>
    have rest := ih fun y member => each y (List.mem_cons_of_mem x member)
    rw [List.flatMapM_cons, each x List.mem_cons_self, rest, List.all_cons]
    by_cases good : ok x <;> by_cases others : l.all ok <;>
      simp [good, others, bind, Except.bind, pure, Except.pure]

@[simp] theorem toOption_ok (a : β) : (Except.ok a : Except ε β).toOption = some a := rfl

@[simp] theorem toOption_error (e : ε) : (Except.error e : Except ε β).toOption = none := rfl

theorem toOption_eq_some {r : Except ε β} {a : β} : r.toOption = some a ↔ r = .ok a := by
  cases r <;> simp

/-- A run over the elements of a list with their places, where the places only tag what each
element gives, gives once the tags are dropped what the elements give. -/
theorem flatMap_zipIdx_of_untagged {γ : Type} {l : List α} {f : α × Nat → List β}
    {drop : β → γ} {g : α → List γ} (untagged : ∀ a, (f a).map drop = g a.1) :
    (l.zipIdx.flatMap f).map drop = l.flatMap g :=
  calc (l.zipIdx.flatMap f).map drop = l.zipIdx.flatMap fun a => g a.1 := by
        rw [List.map_flatMap]
        exact List.flatMap_congr fun a _ => untagged a
    _ = (l.zipIdx.map Prod.fst).flatMap g := by rw [List.flatMap_map]
    _ = l.flatMap g := by rw [List.zipIdx_map_fst]

end Runs

/-! ## Keys and expressions written as text -/

/-- A key is named by its plain form, unquoted, when it can be written as text. -/
theorem keyName_eq (k : Value) :
    keyName k =
      if k.writable then .ok (unquote k.plain) else .error Number.writeLimitComplaint := by
  unfold keyName Value.plainText
  split <;> rfl

theorem resolveLiteral_list (xs : List Value) :
    resolveLiteral (.list xs) = .list <$> resolveAll xs := by
  rw [resolveLiteral]

theorem resolveLiteral_map (kvs : Entries) :
    resolveLiteral (.map kvs) = .map <$> resolveEntries [] kvs := by
  rw [resolveLiteral]

/-- A list resolves, if at all, to the list of its items' values. -/
theorem resolveLiteral_list_eq_ok {xs : List Value} {v : Value} :
    resolveLiteral (.list xs) = .ok v ↔ ∃ ys, resolveAll xs = .ok ys ∧ v = .list ys := by
  rw [resolveLiteral_list]
  cases resolveAll xs <;> simp [Functor.map, Except.map, eq_comm]

/-- A mapping resolves, if at all, to the mapping of its entries' values. -/
theorem resolveLiteral_map_eq_ok {kvs : Entries} {v : Value} :
    resolveLiteral (.map kvs) = .ok v ↔ ∃ es, resolveEntries [] kvs = .ok es ∧ v = .map es := by
  rw [resolveLiteral_map]
  cases resolveEntries [] kvs <;> simp [Functor.map, Except.map, eq_comm]

/-- Whether resolving an expression stops at a part that cannot be written as text. -/
def meetsUnwritable (e : Value) : Bool :=
  match resolveLiteral e with
  | .error .unwritable => true
  | _ => false

/-! ## The dictionary of assignments -/

/-- A name is among the first components exactly when it is found. -/
theorem contains_map_fst {ps : List (String × Value)} (n : String) :
    (ps.map Prod.fst).contains n = (ps.lookup n).isSome := by
  induction ps with
  | nil => rfl
  | cons p ps ih =>
    by_cases same : n = p.1
    · simp [same]
    · have differ : (n == p.1) = false := beq_eq_false_iff_ne.mpr same
      rw [List.map_cons, List.contains_cons, List.lookup_cons, differ, Bool.false_or, ih]

/-- The dictionary that assigning the pairs in order gives: each name once, at the place where
it is first assigned, with the value it is assigned last. -/
def assigned (ps : List (String × Value)) : List (String × Value) :=
  (ps.map Prod.fst).eraseDups.filterMap fun n => (ps.reverse.lookup n).map (n, ·)

theorem lookup_isSome_iff {ps : List (String × Value)} {n : String} :
    (ps.lookup n).isSome ↔ n ∈ ps.map Prod.fst := by
  rw [← contains_map_fst, List.contains_iff_mem]

/-- Each assigned name is kept, at its first place. -/
theorem keys_assigned (ps : List (String × Value)) :
    (assigned ps).map Prod.fst = (ps.map Prod.fst).eraseDups := by
  rw [assigned, List.map_filterMap]
  refine (List.filterMap_congr fun n member => ?_).trans List.filterMap_some
  have found : (ps.reverse.lookup n).isSome := by
    rw [lookup_isSome_iff, List.map_reverse, List.mem_reverse]
    exact List.mem_eraseDups.mp member
  obtain ⟨v, hv⟩ := Option.isSome_iff_exists.mp found
  simp [hv]

/-- Assigning a name again keeps its place and takes the new value. -/
theorem assigned_snoc_of_mem {ps : List (String × Value)} {n : String} (v : Value)
    (present : n ∈ ps.map Prod.fst) :
    assigned (ps ++ [(n, v)]) =
      (assigned ps).map fun kv => if kv.1 = n then (n, v) else kv := by
  have keys : (ps ++ [(n, v)]).map Prod.fst = ps.map Prod.fst ++ [n] := by simp
  have again : ([n].removeAll (ps.map Prod.fst)).eraseDups = [] := by
    simp [List.removeAll, present]
  rw [assigned, assigned, keys, List.eraseDups_append, again, List.append_nil, List.map_filterMap]
  refine List.filterMap_congr fun m member => ?_
  by_cases same : m = n
  · subst same
    have found : (ps.reverse.lookup m).isSome := by
      rw [lookup_isSome_iff, List.map_reverse, List.mem_reverse]
      exact present
    obtain ⟨w, hw⟩ := Option.isSome_iff_exists.mp found
    simp [hw]
  · have differ : (m == n) = false := beq_eq_false_iff_ne.mpr same
    simp [List.reverse_append, List.lookup_cons, differ]
    cases ps.reverse.lookup m <;> simp [same]

/-- Assigning a new name adds it last. -/
theorem assigned_snoc_of_not_mem {ps : List (String × Value)} {n : String} (v : Value)
    (absent : n ∉ ps.map Prod.fst) :
    assigned (ps ++ [(n, v)]) = assigned ps ++ [(n, v)] := by
  have keys : (ps ++ [(n, v)]).map Prod.fst = ps.map Prod.fst ++ [n] := by simp
  have fresh : ([n].removeAll (ps.map Prod.fst)).eraseDups = [n] := by
    simp [List.removeAll, absent, List.eraseDups_cons]
  rw [assigned, assigned, keys, List.eraseDups_append, fresh, List.filterMap_append]
  congr 1
  · refine List.filterMap_congr fun m member => ?_
    have differ : (m == n) = false := by
      rw [beq_eq_false_iff_ne]
      rintro rfl
      exact absent (List.mem_eraseDups.mp member)
    simp [List.reverse_append, List.lookup_cons, differ]
  · simp [List.reverse_append]

/-- With names all distinct, assigning the pairs in order keeps each of them as it is. -/
theorem assigned_of_nodup {ps : List (String × Value)} (nodup : (ps.map Prod.fst).Nodup) :
    assigned ps = ps := by
  induction ps using List.reverseRecOn with
  | nil => rfl
  | append_singleton ps p ih =>
    rw [List.map_append, List.nodup_append] at nodup
    have absent : p.1 ∉ ps.map Prod.fst := fun member => nodup.2.2 p.1 member p.1 (by simp) rfl
    rw [assigned_snoc_of_not_mem p.2 absent, ih nodup.1]

/-! ## The block of a body -/

/-- The attributes a body declares, in key order: every entry but the line marks, by its
unquoted name. -/
def attributeList (body : Entries) : List (String × Value) :=
  (body.filter fun kv => !isMetaKey kv.1).map fun kv => (unquote kv.1.plain, kv.2)

/-- The names and static values of the attributes that have one, in order. -/
def resolvedPairs (ps : List (String × Value)) : List (String × Value) :=
  ps.filterMap fun p => (resolveLiteral p.2).toOption.map (p.1, ·)

/-- The block that recording the attributes `ps` in order gives, when no expression among
them stops at a part that cannot be written: every name; the names without a static value;
each name with a static value once, at the place it first gets one, with the value it gets
last. -/
def recorded (kind : String) (labels : List String) (ps : List (String × Value)) : Block where
  kind := kind
  labels := labels
  attributes := assigned (resolvedPairs ps)
  unresolved := (ps.filter fun p => (resolveLiteral p.2).toOption.isNone).map Prod.fst
  names := ps.map Prod.fst

/-- Recording one more attribute fails when its expression stops at a part that cannot be
written, and otherwise records it last. -/
theorem addAttribute_recorded (kind : String) (labels : List String)
    (ps : List (String × Value)) (n : String) (e : Value) :
    (recorded kind labels ps).addAttribute n e =
      if meetsUnwritable e then .error Number.writeLimitComplaint
      else .ok (recorded kind labels (ps ++ [(n, e)])) := by
  unfold Block.addAttribute meetsUnwritable
  cases resolved : resolveLiteral e with
  | ok v =>
    -- a static value is assigned: in place when its name has one already, else last
    have pairs : resolvedPairs (ps ++ [(n, e)]) = resolvedPairs ps ++ [(n, v)] := by
      simp [resolvedPairs, resolved]
    have declared : (recorded kind labels ps).attributes.any (·.1 = n) = true ↔
        n ∈ (resolvedPairs ps).map Prod.fst := by
      rw [List.any_eq_true, ← List.mem_eraseDups, ← keys_assigned]
      simp [recorded]
    have unresolved : (recorded kind labels (ps ++ [(n, e)])).unresolved =
        (recorded kind labels ps).unresolved := by
      simp [recorded, resolved]
    dsimp only
    split
    · rename_i present
      simp only [recorded, pure, Except.pure, Bool.false_eq_true, if_false, Except.ok.injEq,
        Block.mk.injEq, true_and]
      refine ⟨?_, by simpa [recorded] using unresolved.symm, by simp⟩
      rw [pairs, assigned_snoc_of_mem v (declared.mp present)]
    · rename_i present
      simp only [recorded, pure, Except.pure, Bool.false_eq_true, if_false, Except.ok.injEq,
        Block.mk.injEq, true_and]
      refine ⟨?_, by simpa [recorded] using unresolved.symm, by simp⟩
      rw [pairs, assigned_snoc_of_not_mem v (mt declared.mpr present)]
  | error failure =>
    cases failure with
    | dynamic =>
      have pairs : resolvedPairs (ps ++ [(n, e)]) = resolvedPairs ps := by
        simp [resolvedPairs, resolved]
      simp [recorded, pairs, resolved, pure, Except.pure]
    | unwritable => rfl

/-- Whether every attribute of a body can be read: its key can be written as text, and
resolving its expression stops at no part that cannot be. -/
def bodyReadable (body : Entries) : Bool :=
  body.all fun kv => isMetaKey kv.1 || (kv.1.writable && !meetsUnwritable kv.2)

/-- Reading the entries of a body one at a time into a block that has recorded `ps` fails
when some attribute cannot be read, and otherwise records all of them after `ps`. -/
theorem foldlM_recorded {kind : String} {labels : List String}
    {step : Block → Value × Value → Except String Block}
    (stepEq : ∀ ps kv, step (recorded kind labels ps) kv =
      if isMetaKey kv.1 then .ok (recorded kind labels ps)
      else if kv.1.writable && !meetsUnwritable kv.2 then
        .ok (recorded kind labels (ps ++ [(unquote kv.1.plain, kv.2)]))
      else .error Number.writeLimitComplaint)
    (body : Entries) (ps : List (String × Value)) :
    body.foldlM step (recorded kind labels ps) =
      if bodyReadable body then .ok (recorded kind labels (ps ++ attributeList body))
      else .error Number.writeLimitComplaint := by
  induction body generalizing ps with
  | nil => simp [bodyReadable, attributeList, pure, Except.pure]
  | cons kv body ih =>
    have readable : bodyReadable (kv :: body) =
        ((isMetaKey kv.1 || (kv.1.writable && !meetsUnwritable kv.2)) && bodyReadable body) := rfl
    rw [List.foldlM_cons, stepEq, readable]
    by_cases mark : isMetaKey kv.1
    · -- a line mark is passed over
      have same : attributeList (kv :: body) = attributeList body := by simp [attributeList, mark]
      simp only [mark, if_true, Bool.true_or, Bool.true_and, bind, Except.bind, same]
      exact ih ps
    · by_cases good : kv.1.writable && !meetsUnwritable kv.2
      · have added :
            attributeList (kv :: body) = (unquote kv.1.plain, kv.2) :: attributeList body := by
          simp [attributeList, mark]
        simp only [mark, good, Bool.false_eq_true, if_false, if_true, Bool.false_or, Bool.true_and,
          bind, Except.bind, added]
        rw [ih]
        simp
      · simp [mark, good, bind, Except.bind]

/-- The block a body gives when every attribute can be read: its attributes recorded in key
order, and its start line. -/
def describedBlock (kind : String) (labels : List String) (body : Entries) : Block :=
  { recorded kind labels (attributeList body) with line := startLine body }

/-- A body gives the block it describes when every attribute of it can be read, and fails
with the complaint otherwise. -/
theorem ofBody_eq (kind : String) (labels : List String) (body : Entries) :
    Block.ofBody kind labels body =
      if bodyReadable body then .ok (describedBlock kind labels body)
      else .error Number.writeLimitComplaint := by
  have start : ({ kind, labels } : Block) = recorded kind labels [] := rfl
  unfold Block.ofBody
  rw [start, foldlM_recorded ?stepEq body []]
  · by_cases readable : bodyReadable body <;>
      simp [readable, describedBlock, bind, Except.bind, pure, Except.pure]
  · intro ps kv
    by_cases mark : isMetaKey kv.1
    · simp [mark, pure, Except.pure]
    · simp only [mark, Bool.false_eq_true, if_false, keyName_eq]
      by_cases writable : kv.1.writable
      · simp only [writable, if_true, bind, Except.bind, Bool.true_and]
        rw [addAttribute_recorded]
        by_cases meets : meetsUnwritable kv.2 <;> simp [meets]
      · simp [writable, bind, Except.bind]

/-! ## The label walk -/

/-- The label walk as it goes when every key it meets can be written, keeping the places of
the label keys. -/
def labelledAt : Nat → Value → List (List Nat × List String × Entries)
  | 0, .map kvs => if Entries.hasKey kvs (.str "__start_line__") then [([], [], kvs)] else []
  | d + 1, .map kvs =>
    if Entries.hasKey kvs (.str "__start_line__") then []
    else kvs.zipIdx.flatMap fun (kv, i) =>
      if isMetaKey kv.1 then []
      else (labelledAt d kv.2).map fun (path, labels, body) =>
        (i :: path, unquote kv.1.plain :: labels, body)
  | _, _ => []

/-- Whether the label walk can write every label key it meets: below each key, not a line
mark, of a mapping without a start mark above the last label. -/
def walkWritable : Nat → Value → Bool
  | d + 1, .map kvs =>
    Entries.hasKey kvs (.str "__start_line__") ||
      kvs.all fun kv => isMetaKey kv.1 || (kv.1.writable && walkWritable d kv.2)
  | _, _ => true

/-- The label walk finds what `labelledAt` says, after the labels `pre`, when it can write
every key it meets, and fails with the complaint otherwise. -/
theorem labelled_eq (d : Nat) (pre : List String) (e : Value) :
    labelled d pre e =
      if walkWritable d e then .ok ((labelledAt d e).map fun x => (pre ++ x.2.1, x.2.2))
      else .error Number.writeLimitComplaint := by
  induction d generalizing pre e with
  | zero =>
    cases e with
    | map kvs =>
      simp only [labelled, labelledAt, walkWritable, if_true]
      split_ifs <;> simp [pure, Except.pure]
    | _ => simp [labelled, labelledAt, walkWritable, pure, Except.pure]
  | succ d ih =>
    cases e with
    | map kvs =>
      simp only [labelled, labelledAt, walkWritable]
      by_cases start : Entries.hasKey kvs (.str "__start_line__")
      · simp [start, pure, Except.pure]
      · simp only [start, Bool.false_eq_true, if_false, Bool.false_or]
        -- one step per entry of the mapping: a line mark gives nothing, any other key is
        -- written and the walk goes on below its value
        let step : Value × Value → List (List String × Entries) := fun kv =>
          if isMetaKey kv.1 then []
          else (labelledAt d kv.2).map fun x => (pre ++ [unquote kv.1.plain] ++ x.2.1, x.2.2)
        rw [flatMapM_eq_ite (fun kv => isMetaKey kv.1 || (kv.1.writable && walkWritable d kv.2))
          step ?each]
        · split_ifs
          · -- the places only tag the labels' places
            have placed : ∀ a : (Value × Value) × Nat,
                ((if isMetaKey a.1.1 then [] else (labelledAt d a.1.2).map
                  fun x => (a.2 :: x.1, unquote a.1.1.plain :: x.2.1, x.2.2)).map
                    fun x => (pre ++ x.2.1, x.2.2)) = step a.1 := by
              intro a
              split_ifs <;> simp [step, *]
            congr 1
            exact (flatMap_zipIdx_of_untagged placed).symm
          · rfl
        · intro kv _
          by_cases mark : isMetaKey kv.1
          · simp [mark, step, pure, Except.pure]
          · simp only [mark, Bool.false_eq_true, if_false, Bool.false_or, keyName_eq]
            by_cases writable : kv.1.writable
            · simp only [writable, if_true, bind, Except.bind, Bool.true_and, ih]
              by_cases walk : walkWritable d kv.2 <;> simp [walk, step, mark]
            · simp [writable, bind, Except.bind]
    | _ => simp [labelled, labelledAt, walkWritable, pure, Except.pure]

/-! ## The blocks of a document -/

/-- The labelled bodies of a document with their kind, in document order. -/
def labelledBodies (doc : Entries) : List (String × List String × Entries) :=
  blockLabelCounts.flatMap fun kn =>
    (entriesOf (Entries.get? doc kn.1)).flatMap fun e =>
      (labelledAt kn.2 e).map fun x => (kn.1, x.2.1, x.2.2)

/-- The block a labelled body describes. -/
def blockOf (x : String × List String × Entries) : Block := describedBlock x.1 x.2.1 x.2.2

/-- The labelled bodies of a document in the order of their blocks: by start line, and in
document order on one line. -/
def sortedBodies (doc : Entries) : List (String × List String × Entries) :=
  (labelledBodies doc).mergeSort fun x y => (startLine x.2.2).toInt ≤ (startLine y.2.2).toInt

/-- Whether the blocks of a document can be read: below every entry of a checked block type,
the label walk can write every key it meets, and every attribute of every body it finds can
be read. -/
def documentReadable (doc : Entries) : Bool :=
  blockLabelCounts.all fun kn =>
    (entriesOf (Entries.get? doc kn.1)).all fun e =>
      walkWritable kn.2 e && (labelledAt kn.2 e).all fun x => bodyReadable x.2.2

/-- The blocks of one entry: the walk below it, then the block of each body it finds. -/
theorem entryBlocks_eq (kind : String) (n : Nat) (e : Value)
    {build : List String × Entries → Except String Block}
    (built : ∀ x, build x = Block.ofBody kind x.1 x.2) :
    (labelled n [] e >>= fun bodies => bodies.mapM build) =
      if walkWritable n e && (labelledAt n e).all (fun x => bodyReadable x.2.2) then
        .ok ((labelledAt n e).map fun x => blockOf (kind, x.2.1, x.2.2))
      else .error Number.writeLimitComplaint := by
  rw [labelled_eq]
  by_cases walk : walkWritable n e
  · simp only [walk, if_true, Bool.true_and, bind, Except.bind]
    rw [mapM_eq_ite (fun x => bodyReadable x.2) (fun x => describedBlock kind x.1 x.2)
      fun x _ => (built x).trans (ofBody_eq kind x.1 x.2)]
    rw [List.all_map, List.map_map]
    rfl
  · simp [walk, bind, Except.bind]

/-- The blocks of a document are those its labelled bodies describe, in block order, when
they can all be read; otherwise reading them fails with the complaint. -/
theorem blocksOf_eq (doc : Entries) :
    blocksOf doc =
      if documentReadable doc then .ok ((sortedBodies doc).map blockOf)
      else .error Number.writeLimitComplaint := by
  unfold blocksOf
  rw [flatMapM_eq_ite (c := Number.writeLimitComplaint)
    (fun kn => (entriesOf (Entries.get? doc kn.1)).all fun e =>
      walkWritable kn.2 e && (labelledAt kn.2 e).all fun x => bodyReadable x.2.2)
    (fun kn => (entriesOf (Entries.get? doc kn.1)).flatMap fun e =>
      (labelledAt kn.2 e).map fun x => blockOf (kn.1, x.2.1, x.2.2)) ?kinds]
  · by_cases readable : documentReadable doc
    · have sorted : ((labelledBodies doc).map blockOf).mergeSort
          (fun a b => decide (a.line.toInt ≤ b.line.toInt)) = (sortedBodies doc).map blockOf :=
        (List.map_mergeSort (f := blockOf) fun _ _ _ _ => rfl).symm
      simp only [documentReadable] at readable
      simp only [readable, if_true, bind, Except.bind, pure, Except.pure]
      rw [← sorted, labelledBodies, List.map_flatMap]
      simp [List.map_flatMap, Function.comp_def, documentReadable, readable]
    · simp only [documentReadable] at readable
      simp [readable, documentReadable, bind, Except.bind]
  · rintro ⟨kind, n⟩ -
    exact flatMapM_eq_ite
      (fun e => walkWritable n e && (labelledAt n e).all fun x => bodyReadable x.2.2)
      (fun e => (labelledAt n e).map fun x => blockOf (kind, x.2.1, x.2.2))
      fun e _ => entryBlocks_eq kind n e fun _ => rfl

/-- The blocks of a document are read exactly when they can all be read, and they are then
those its labelled bodies describe, in block order. -/
theorem blocksOf_eq_ok {doc : Entries} {blocks : List Block} :
    blocksOf doc = .ok blocks ↔
      documentReadable doc = true ∧ blocks = (sortedBodies doc).map blockOf := by
  rw [blocksOf_eq]
  by_cases readable : documentReadable doc <;> simp [readable, eq_comm]

end Terraform

end IacLint
