import Mathlib
import IacLint.Terraform.Checks
import IacLint.Proofs.BlockReading

/-!
# Which findings of a configuration are errors

Of everything the block checks find, only the secret checks give errors. A resource gives
one for each attribute, in key order, whose name looks secret-bearing and whose value
resolves to a non-empty text; a variable gives one when its name looks secret-bearing and
its default resolves to a non-empty text. Every other finding is a warning.

What resolves to a non-empty text is a literal text with no interpolation left once the
escapes `$${` are removed, and not empty once its quotes are dropped: a reference, a call
or an interpolation (all written as text holding `${`), a number, a truth value, null, a
list or a mapping never does. When no body declares two attributes of one unquoted name,
each attribute of a block holds what its own expression resolves to, so the errors of the
blocks a document is read into can be read off its bodies, block by block in line order.

## Main definitions

* `isNonEmptyLiteral` — an expression that is a non-empty literal text
* `NamesDistinct` — the attributes of a body have distinct names
* `secretErrors` — the errors a block should give, read off its body

## Main results

* `isNonEmptyLiteral_iff` — what resolves to a non-empty text
* `describedBlock_get?` — with distinct names, an attribute holds what its expression resolves to
* `checkBlock_errors`, `checkBlock_severity` — only the secret checks give errors
* `secret_errors` — the errors of a document, read off its bodies
-/

namespace IacLint

namespace Text

theorem replaceChars_eq_nil_iff {old new : List Char} (nonempty : new ≠ []) {fuel : Nat}
    {cs : List Char} : replaceChars old new fuel cs = [] ↔ cs = [] := by
  cases fuel with
  | zero => simp [replaceChars]
  | succ fuel =>
    cases cs with
    | nil => simp [replaceChars]
    | cons c rest =>
      simp only [replaceChars, reduceCtorEq, iff_false]
      split_ifs
      · simp [nonempty]
      · simp

end Text

namespace Terraform

open IacLint.Data

/-- Replacing the escapes of a text leaves it empty only when it was empty. -/
theorem replaceAll_escapes_eq_empty_iff (s : String) :
    Text.replaceAll s escapedMarker marker = "" ↔ s = "" := by
  have nonempty : marker.toList ≠ [] := by decide
  rw [Text.replaceAll, ← String.toList_inj, String.toList_ofList, String.toList_empty,
    Text.replaceChars_eq_nil_iff nonempty, ← String.toList_empty, String.toList_inj]

/-- An expression that is a literal text, not empty once its quotes are dropped. -/
def isNonEmptyLiteral : Value → Bool
  | .str t => isLiteralText t && unquote t != ""
  | _ => false

/-- The expressions that resolve to a non-empty text are the literal texts that are not
empty once unquoted: a number, truth value, null, list or mapping never does, nor does a
text with an interpolation left once the escapes are removed. -/
theorem isNonEmptyLiteral_iff (e : Value) :
    isNonEmptyLiteral e = true ↔ ∃ s, resolveLiteral e = .ok (.str s) ∧ s ≠ "" := by
  cases e with
  | str t =>
    rw [resolveLiteral]
    unfold isNonEmptyLiteral
    split_ifs with literal
    · simp [literal, replaceAll_escapes_eq_empty_iff, pure, Except.pure]
    · simp [literal]
  -- a list or a mapping resolves, if at all, to a list or a mapping
  | list xs =>
    simp only [isNonEmptyLiteral, Bool.false_eq_true, false_iff, not_exists, not_and]
    intro s resolved
    obtain ⟨ys, -, same⟩ := resolveLiteral_list_eq_ok.mp resolved
    cases same
  | map kvs =>
    simp only [isNonEmptyLiteral, Bool.false_eq_true, false_iff, not_exists, not_and]
    intro s resolved
    obtain ⟨es, -, same⟩ := resolveLiteral_map_eq_ok.mp resolved
    cases same
  | _ => simp [resolveLiteral, isNonEmptyLiteral, pure, Except.pure, throw, throwThe,
      MonadExceptOf.throw]

/-! ## The attributes of a body -/

/-- No two attributes of a body have the same unquoted name. -/
def NamesDistinct (body : Entries) : Prop := ((attributeList body).map Prod.fst).Nodup

/-- With distinct names, looking a name up among the resolved attributes is resolving the
expression of that name. -/
theorem lookup_filterMap {g : Value → Option Value} {ps : List (String × Value)}
    (nodup : (ps.map Prod.fst).Nodup) (n : String) :
    (ps.filterMap fun p => (g p.2).map (p.1, ·)).lookup n = (ps.lookup n).bind g := by
  induction ps with
  | nil => rfl
  | cons p ps ih =>
    rw [List.map_cons, List.nodup_cons] at nodup
    obtain ⟨m, e⟩ := p
    by_cases same : n = m
    · subst same
      -- the name does not come back later, so a value it lacks is not found further on
      have later : ps.lookup n = none := List.lookup_eq_none_iff.mpr fun p member =>
        bne_iff_ne.mpr fun same => nodup.1 (List.mem_map.mpr ⟨p, member, same.symm⟩)
      cases resolved : g e <;> simp [resolved, ih nodup.2, later]
    · have differ : (n == m) = false := by simp [same]
      cases resolved : g e <;> simp [resolved, List.lookup_cons, differ, ih nodup.2]

/-- With distinct names, a name is found with the expression it was declared with. -/
theorem lookup_of_mem {ps : List (String × Value)} (nodup : (ps.map Prod.fst).Nodup)
    {p : String × Value} (member : p ∈ ps) : ps.lookup p.1 = some p.2 := by
  induction ps with
  | nil => simp at member
  | cons q ps ih =>
    obtain ⟨m, e⟩ := q
    rw [List.map_cons, List.nodup_cons] at nodup
    rcases List.mem_cons.mp member with rfl | member
    · simp
    · have differ : (p.1 == m) = false := by
        rw [beq_eq_false_iff_ne]
        exact fun same => nodup.1 (List.mem_map.mpr ⟨p, member, same⟩)
      rw [List.lookup_cons, differ]
      exact ih nodup.2 member

/-- With distinct names, some attribute of a name has a property exactly when the one the
name is found with has it. -/
theorem any_name_eq_lookup {q : Value → Bool} {ps : List (String × Value)}
    (nodup : (ps.map Prod.fst).Nodup) (n : String) :
    (ps.any fun p => p.1 == n && q p.2) = (ps.lookup n).any q := by
  induction ps with
  | nil => rfl
  | cons p ps ih =>
    rw [List.map_cons, List.nodup_cons] at nodup
    obtain ⟨m, e⟩ := p
    by_cases same : n = m
    · subst same
      have later : (ps.any fun p => p.1 == n && q p.2) = false := by
        simpa using fun a b member same =>
          absurd (List.mem_map.mpr ⟨(a, b), member, same⟩) nodup.1
      simp [later]
    · have differ : (n == m) = false := by simp [same]
      have differ' : (m == n) = false := by simp [Ne.symm same]
      rw [List.any_cons, List.lookup_cons, differ, ih nodup.2]
      simp [differ']

/-- The names of the attributes that have a static value come in the order of all names. -/
theorem names_resolvedPairs_sublist (ps : List (String × Value)) :
    ((resolvedPairs ps).map Prod.fst).Sublist (ps.map Prod.fst) := by
  induction ps with
  | nil => exact List.Sublist.slnil
  | cons p ps ih =>
    cases resolved : (resolveLiteral p.2).toOption with
    | none => simpa [resolvedPairs, resolved] using ih.cons p.1
    | some v => simpa [resolvedPairs, resolved] using ih.cons_cons p.1

variable (kind : String) (labels : List String) (body : Entries)

@[simp] theorem describedBlock_kind : (describedBlock kind labels body).kind = kind := rfl

@[simp] theorem describedBlock_labels : (describedBlock kind labels body).labels = labels := rfl

@[simp] theorem describedBlock_names :
    (describedBlock kind labels body).names = (attributeList body).map Prod.fst := rfl

/-- With distinct names, an attribute's value is what its expression resolves to. -/
theorem describedBlock_get? {body} (distinct : NamesDistinct body) (n : String) :
    (describedBlock kind labels body).get? n =
      ((attributeList body).lookup n).bind fun e => (resolveLiteral e).toOption := by
  have kept := assigned_of_nodup ((names_resolvedPairs_sublist _).nodup distinct)
  simp only [Block.get?, describedBlock, recorded, kept]
  exact lookup_filterMap (g := fun e => (resolveLiteral e).toOption) distinct n

/-! ## The secret checks of a block read from a body -/

section Checks

variable {kind : String} {labels : List String} {body : Entries}

theorem secretTextNames_describedBlock (distinct : NamesDistinct body) :
    secretTextNames (describedBlock kind labels body) = ((attributeList body).filter fun p =>
      Catalog.containsSecretKeyword p.1 && isNonEmptyLiteral p.2).map Prod.fst := by
  unfold secretTextNames
  rw [describedBlock_names, List.filter_map]
  congr 1
  refine List.filter_congr fun p member => ?_
  simp only [Function.comp, describedBlock_get? _ _ distinct, lookup_of_mem distinct member,
    Option.bind_some]
  -- the check's test on what the attribute resolves to
  congr 1
  rw [Bool.eq_iff_iff, isNonEmptyLiteral_iff]
  split
  · rename_i s resolved
    simp [toOption_eq_some.mp resolved]
  · rename_i notText
    simp only [Bool.false_eq_true, false_iff, not_exists, not_and]
    exact fun s resolved => absurd (toOption_eq_some.mpr resolved) (notText s)

theorem checkVariableDefault_describedBlock (distinct : NamesDistinct body) (path : String) :
    checkVariableDefault path (describedBlock kind labels body) =
      if Catalog.containsSecretKeyword (labels.getLast?.getD "") &&
          (attributeList body).any (fun p => p.1 == "default" && isNonEmptyLiteral p.2) then
        [⟨path, .error,
          "Variable '" ++ labels.getLast?.getD "" ++ "' has a hardcoded default secret"⟩]
      else [] := by
  have named : (describedBlock kind labels body).name = labels.getLast?.getD "" := rfl
  rw [any_name_eq_lookup distinct]
  unfold checkVariableDefault
  rw [named, describedBlock_get? _ _ distinct]
  cases (attributeList body).lookup "default" with
  | none => simp
  | some e =>
    simp only [Option.bind_some, Option.any_some]
    by_cases secret : Catalog.containsSecretKeyword (labels.getLast?.getD "") = true
    · simp only [secret, if_true, Bool.true_and]
      -- the default's test on what it resolves to
      split
      · rename_i s resolved
        have literal : isNonEmptyLiteral e = decide (s ≠ "") := by
          rw [Bool.eq_iff_iff, isNonEmptyLiteral_iff]
          simp [toOption_eq_some.mp resolved]
        by_cases empty : s = "" <;> simp [literal, empty]
      · rename_i notText
        have literal : isNonEmptyLiteral e = false := by
          rw [Bool.eq_false_iff, ne_eq, isNonEmptyLiteral_iff]
          exact fun ⟨s, resolved, _⟩ => notText s (toOption_eq_some.mpr resolved)
        simp [literal]
    · simp [secret]

end Checks

/-! ## The errors of a block -/

section Severity

variable {fs : List Finding}

/-- Findings all of one severity are kept whole by a filter on that severity. -/
theorem filter_severity_of_all {s : Severity} (all : ∀ f ∈ fs, f.severity = s) :
    fs.filter (·.severity == s) = fs :=
  List.filter_eq_self.mpr fun f member => by simp [all f member]

/-- Findings all of one severity are dropped whole by a filter on another. -/
theorem filter_severity_of_ne {s s' : Severity} (all : ∀ f ∈ fs, f.severity = s)
    (other : s ≠ s') : fs.filter (·.severity == s') = [] :=
  List.filter_eq_nil_iff.mpr fun f member => by simp [all f member, other]

/-- The checks of a resource other than the secret check only warn. -/
theorem warnChecks_warn (path : String) (b : Block) : ∀ f ∈ checkDeprecatedResource path b ++
    checkPublicBucket path b ++ checkRequiredTags path b, f.severity = .warn := by
  intro f member
  simp only [List.mem_append] at member
  rcases member with (deprecated | bucket) | tags
  · unfold checkDeprecatedResource at deprecated
    split at deprecated <;> simp_all
  · unfold checkPublicBucket at bucket
    split at bucket
    · split_ifs at bucket <;> simp_all
    · simp at bucket
  · unfold checkRequiredTags at tags
    split_ifs at tags
    · simp_all
    · split at tags
      · obtain ⟨_, -, rfl⟩ := List.mem_map.mp tags
        rfl
      · simp at tags

theorem checkSecretAttributes_error (path : String) (b : Block) :
    ∀ f ∈ checkSecretAttributes path b, f.severity = .error := by
  simp [checkSecretAttributes]

theorem checkVariableDefault_error (path : String) (b : Block) :
    ∀ f ∈ checkVariableDefault path b, f.severity = .error := by
  intro f member
  unfold checkVariableDefault at member
  split_ifs at member
  · split at member
    · split_ifs at member <;> simp_all
    · simp at member
  · simp at member

/-- The errors of a block are those of its secret check; everything else it finds is a
warning. -/
theorem checkBlock_errors (path : String) (b : Block) :
    (checkBlock path b).filter (·.severity == .error) =
      if b.kind = "resource" then checkSecretAttributes path b
      else checkVariableDefault path b := by
  unfold checkBlock
  split_ifs
  · have others :=
      filter_severity_of_ne (warnChecks_warn path b) (by decide : Severity.warn ≠ .error)
    simp only [resourceChecks, List.flatMap_cons, List.flatMap_nil, List.append_nil,
      ← List.append_assoc, List.filter_append, others, List.nil_append]
    exact filter_severity_of_all (checkSecretAttributes_error path b)
  · simp only [variableChecks, List.flatMap_cons, List.flatMap_nil, List.append_nil]
    exact filter_severity_of_all (checkVariableDefault_error path b)

theorem checkBlock_severity (path : String) (b : Block) :
    ∀ f ∈ checkBlock path b, f.severity = .error ∨ f.severity = .warn := by
  intro f member
  unfold checkBlock at member
  split_ifs at member
  · simp only [resourceChecks, List.flatMap_cons, List.flatMap_nil, List.append_nil,
      ← List.append_assoc, List.mem_append] at member
    rcases member with others | secret
    · exact .inr (warnChecks_warn path b f (by simpa only [List.mem_append] using others))
    · exact .inl (checkSecretAttributes_error path b f secret)
  · simp only [variableChecks, List.flatMap_cons, List.flatMap_nil, List.append_nil] at member
    exact .inl (checkVariableDefault_error path b f member)

end Severity

/-! ## The errors of a document -/

/-- Text keys are one key when their texts are equal. -/
@[simp] theorem sameKey_str (s t : String) : (Value.str s).sameKey (.str t) = (s == t) := rfl

/-- The error findings a block of the given kind, labels and body should give: for a
resource, one for each attribute, in key order, whose name looks secret-bearing and whose
expression is a non-empty literal text; for a variable, one when its name looks
secret-bearing and its `default` is a non-empty literal text. -/
def secretErrors (path kind : String) (labels : List String) (body : Entries) : List Finding :=
  if kind = "resource" then
    ((attributeList body).filter fun p =>
      Catalog.containsSecretKeyword p.1 && isNonEmptyLiteral p.2).map fun p =>
        ⟨path, .error, "Resource attribute '" ++ p.1 ++ "' may contain hardcoded secret"⟩
  else if Catalog.containsSecretKeyword (labels.getLast?.getD "") &&
      (attributeList body).any (fun p => p.1 == "default" && isNonEmptyLiteral p.2) then
    [⟨path, .error,
      "Variable '" ++ labels.getLast?.getD "" ++ "' has a hardcoded default secret"⟩]
  else []

theorem describedBlock_errors {kind : String} {labels : List String} {body : Entries}
    (distinct : NamesDistinct body) (path : String) :
    (checkBlock path (describedBlock kind labels body)).filter (·.severity == .error) =
      secretErrors path kind labels body := by
  rw [checkBlock_errors, describedBlock_kind]
  unfold secretErrors
  by_cases resource : kind = "resource"
  · rw [if_pos resource, if_pos resource]
    simp [checkSecretAttributes, secretTextNames_describedBlock distinct]
  · rw [if_neg resource, if_neg resource]
    exact checkVariableDefault_describedBlock distinct path

/-- In a document where no block body declares two attributes of one unquoted name, the
errors of the blocks it is read into are, block by block in order, one for each secret-named
attribute of a resource holding a non-empty literal text, in key order, and one for each
secret-named variable whose default is a non-empty literal text; every other finding is a
warning. The non-empty literal texts are the expressions that resolve to a non-empty text. -/
theorem secret_errors (path : String) (doc : Entries) {blocks : List Block}
    (read : blocksOf doc = .ok blocks)
    (distinct : ∀ x ∈ labelledBodies doc, NamesDistinct x.2.2) :
    (blocks.flatMap (checkBlock path)).filter (·.severity == .error) =
        (sortedBodies doc).flatMap (fun x => secretErrors path x.1 x.2.1 x.2.2) ∧
      (∀ f ∈ blocks.flatMap (checkBlock path), f.severity = .error ∨ f.severity = .warn) ∧
      ∀ e, isNonEmptyLiteral e = true ↔ ∃ s, resolveLiteral e = .ok (.str s) ∧ s ≠ "" := by
  obtain ⟨-, rfl⟩ := blocksOf_eq_ok.mp read
  refine ⟨?_, ?_, isNonEmptyLiteral_iff⟩
  · rw [List.filter_flatMap, List.flatMap_map]
    refine List.flatMap_congr fun x member => describedBlock_errors (distinct x ?_) path
    exact (List.mergeSort_perm _ _).mem_iff.mp member
  · intro f member
    obtain ⟨b, -, inside⟩ := List.mem_flatMap.mp member
    exact checkBlock_severity path b f inside

/-- The secret password of a resource and the secret default of a variable are errors;
the secret token given by a reference is not. -/
theorem secret_errors_sample :
    let doc : Entries := [(.str "resource", .map [(.str "aws_db_instance", .map [(.str "main",
      .map [(.str "__start_line__", .int 1), (.str "password", .str "\"hunter2\""),
        (.str "token", .str "$\x7bvar.token\x7d")])])]),
      (.str "variable", .map [(.str "api_key", .map [(.str "__start_line__", .int 6),
        (.str "default", .str "abc")])])]
    let blocks := (sortedBodies doc).map blockOf
    blocksOf doc = .ok blocks ∧ (∀ x ∈ labelledBodies doc, NamesDistinct x.2.2) ∧
      (blocks.flatMap (checkBlock "main.tf")).filter (·.severity == .error) =
          (sortedBodies doc).flatMap (fun x => secretErrors "main.tf" x.1 x.2.1 x.2.2) ∧
        (∀ f ∈ blocks.flatMap (checkBlock "main.tf"), f.severity = .error ∨ f.severity = .warn) ∧
        ∀ e, isNonEmptyLiteral e = true ↔ ∃ s, resolveLiteral e = .ok (.str s) ∧ s ≠ "" := by
  intro doc blocks
  have read : blocksOf doc = .ok blocks := blocksOf_eq_ok.mpr ⟨by decide, rfl⟩
  have distinct : ∀ x ∈ labelledBodies doc, NamesDistinct x.2.2 := by
    unfold NamesDistinct
    decide
  exact ⟨read, distinct, secret_errors "main.tf" doc read distinct⟩

end Terraform

end IacLint
