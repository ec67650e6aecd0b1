import Mathlib
import IacLint.Proofs.SecretErrors
import IacLint.Proofs.Escapes

/-!
# Which warnings a resource gets

The warnings of a resource come from three checks, in this order: a deprecated type, a
storage bucket that anyone may read, and missing tags. Read off the body of the block:

* a resource whose type has a deprecation note gets one warning with that note;
* a storage bucket whose `acl` is the text `public-read`, quoted or not, gets one warning;
* a resource that declares no `tags` gets one warning; one whose `tags` is a mapping with a
  static value gets one warning per required tag, in the catalog's order, that is not among
  the unquoted keys of that mapping; a `tags` with no static value, or whose value is not a
  mapping, gets none.

A variable gets no warning at all.

Whether `tags` is declared is read from the names of the body, while its value comes from
the resolved attributes, so the two views of a body have to agree: they do when no two
attributes of the body have the same unquoted name.

## Main definitions

* `isPublicReadText` — an expression that is the text `public-read`
* `resourceWarnings` — the warnings a resource should get, read off its body

## Main results

* `hasKey_resolveEntries` — the keys of a mapping's static value
* `resolveLiteral_eq_publicRead` — which expressions resolve to `public-read`
* `describedBlock_warnings` — the warnings of the block of one body
* `resource_warnings` — the warnings of every block of a document
-/

namespace IacLint

namespace Terraform

open IacLint.Data

/-! ## The static value of a mapping -/

/-- Adding a text key to a mapping adds that text to its keys. -/
theorem hasKey_insert_str (es : Entries) (a t : String) (v : Value) :
    Entries.hasKey (Entries.insert es (.str a) v) (.str t) =
      (Entries.hasKey es (.str t) || a == t) := by
  unfold Entries.insert
  split_ifs with present
  · -- the keys stay as they were, and `a` was one of them
    have keys : Entries.hasKey (es.map fun kv => if kv.1.sameKey (.str a) then (kv.1, v) else kv)
        (.str t) = Entries.hasKey es (.str t) := by
      simp only [Entries.hasKey, List.any_map, Function.comp_def]
      congr 1
      funext kv
      split_ifs <;> rfl
    rw [keys]
    by_cases same : a = t
    · subst same
      simp [present]
    · simp [same]
  · simp [Entries.hasKey, List.any_append]

/-- The keys of a mapping's static value are the unquoted names of its entries other than
the line marks. -/
theorem hasKey_resolveEntries {kvs : Entries} {acc es : Entries}
    (resolved : resolveEntries acc kvs = .ok es) (t : String) :
    Entries.hasKey es (.str t) =
      (Entries.hasKey acc (.str t) || ((attributeList kvs).map Prod.fst).contains t) := by
  induction kvs generalizing acc with
  | nil =>
    cases resolved
    simp [attributeList]
  | cons kv kvs ih =>
    obtain ⟨k, v⟩ := kv
    by_cases lineMark : isMetaKey k
    · rw [resolveEntries, if_pos lineMark] at resolved
      simp [ih resolved, attributeList, lineMark]
    · -- a key that is read has been written as text, and its value resolved
      have writable : k.writable = true := by
        by_contra unwritable
        simp [resolveEntries, lineMark, keyName_eq, unwritable, Except.mapError, bind,
          Except.bind] at resolved
      cases value : resolveLiteral v with
      | error failure =>
        simp [resolveEntries, lineMark, keyName_eq, writable, value, Except.mapError, bind,
          Except.bind] at resolved
      | ok r =>
        simp only [resolveEntries, lineMark, keyName_eq, writable, value, Except.mapError,
          Bool.false_eq_true, if_false, if_true, bind, Except.bind] at resolved
        rw [ih resolved, hasKey_insert_str]
        by_cases same : unquote k.plain = t
        · simp [attributeList, lineMark, same]
        · have differ : (unquote k.plain == t) = false := beq_eq_false_iff_ne.mpr same
          have differ' : (t == unquote k.plain) = false :=
            beq_eq_false_iff_ne.mpr (Ne.symm same)
          simp [attributeList, lineMark, differ, differ']

/-- Only a mapping has a mapping as its static value. -/
theorem eq_map_of_resolveLiteral {e : Value} {es : Entries}
    (resolved : resolveLiteral e = .ok (.map es)) : ∃ kvs, e = .map kvs := by
  cases e with
  | map kvs => exact ⟨kvs, rfl⟩
  | str s =>
    rw [resolveLiteral] at resolved
    split_ifs at resolved
    cases resolved
  | list xs =>
    obtain ⟨ys, -, same⟩ := resolveLiteral_list_eq_ok.mp resolved
    cases same
  | _ => simp [resolveLiteral, pure, Except.pure, throw, throwThe, MonadExceptOf.throw] at resolved

/-! ## The access setting `public-read` -/

/-- An expression that is the text `public-read`, with or without its quotes. -/
def isPublicReadText : Value → Bool
  | .str s => unquote s == Catalog.publicReadAcl
  | _ => false

/-- The expressions that resolve to `public-read` are that text, quoted or not: it holds
no escape and no marker. -/
theorem resolveLiteral_eq_publicRead (e : Value) :
    resolveLiteral e = .ok (.str Catalog.publicReadAcl) ↔ isPublicReadText e = true := by
  cases e with
  | str s =>
    simp only [isPublicReadText, beq_iff_eq]
    constructor
    · intro resolved
      have plain : Text.replaceAll Catalog.publicReadAcl marker escapedMarker =
          Catalog.publicReadAcl := by decide
      rw [← escape_value resolved, plain]
    · intro unquoted
      -- the text is `public-read` with or without quotes, and both are literal
      have literal : isLiteralText s = true := by
        by_cases quoted : Quoted s
        · obtain ⟨inner, whole⟩ := quoted
          rw [unquote_of_quoted whole] at unquoted
          have innerText : inner = Catalog.publicReadAcl.toList := by
            rw [← unquoted, String.toList_ofList]
          have text : s = "\"public-read\"" := by
            rw [← String.toList_inj, whole, innerText]
            decide
          rw [text]
          decide
        · rw [unquote_of_not_quoted quoted] at unquoted
          rw [unquoted]
          decide
      rw [resolveLiteral_str_eq_ok, unquoted]
      exact ⟨literal, by decide⟩
  -- a list or a mapping resolves, if at all, to a list or a mapping
  | list xs =>
    simp only [isPublicReadText, Bool.false_eq_true, iff_false]
    intro resolved
    obtain ⟨ys, -, same⟩ := resolveLiteral_list_eq_ok.mp resolved
    cases same
  | map kvs =>
    simp only [isPublicReadText, Bool.false_eq_true, iff_false]
    intro resolved
    obtain ⟨es, -, same⟩ := resolveLiteral_map_eq_ok.mp resolved
    cases same
  | _ => simp [resolveLiteral, isPublicReadText, pure, Except.pure, throw, throwThe,
      MonadExceptOf.throw]

/-! ## The warnings a resource should get -/

/-- A deprecated resource type, with its note. -/
def deprecationWarnings (path type : String) : List Finding :=
  match Catalog.terraformDeprecated.lookup type with
  | some why => [⟨path, .warn, "Resource type '" ++ type ++ "' is deprecated: " ++ why⟩]
  | none => []

/-- A storage bucket whose `acl` is the text `public-read`. -/
def publicBucketWarnings (path type : String) (attrs : List (String × Value)) : List Finding :=
  if type = Catalog.storageBucketType ∧ (attrs.lookup "acl").any isPublicReadText then
    [⟨path, .warn, "S3 bucket ACL is set to public-read (publicly readable)"⟩]
  else []

/-- No `tags` at all, or a `tags` mapping with a static value that lacks required tags. -/
def tagWarnings (path : String) (attrs : List (String × Value)) : List Finding :=
  match attrs.lookup "tags" with
  | none => [⟨path, .warn, "Resource missing 'tags' attribute entirely"⟩]
  | some (.map kvs) =>
    if (resolveLiteral (.map kvs)).toOption.isSome then
      (Catalog.requiredTags.filter fun t => t ∉ (attributeList kvs).map Prod.fst).map fun t =>
        ⟨path, .warn, "Resource missing required tag '" ++ t ++ "'"⟩
    else []
  | some _ => []

/-- The warnings a resource of the given labels and body should get, in check order. -/
def resourceWarnings (path : String) (labels : List String) (body : Entries) : List Finding :=
  deprecationWarnings path (labels.head?.getD "") ++
    publicBucketWarnings path (labels.head?.getD "") (attributeList body) ++
    tagWarnings path (attributeList body)

/-! ## The checks of a block read from a body -/

section Checks

variable {kind : String} {labels : List String} {body : Entries}

@[simp] theorem describedBlock_type :
    (describedBlock kind labels body).type = labels.head?.getD "" := rfl

theorem checkDeprecatedResource_describedBlock (path : String) :
    checkDeprecatedResource path (describedBlock kind labels body) =
      deprecationWarnings path (labels.head?.getD "") := by
  cases noted : Catalog.terraformDeprecated.lookup (labels.head?.getD "") <;>
    simp [checkDeprecatedResource, deprecationWarnings, noted]

theorem checkPublicBucket_describedBlock (distinct : NamesDistinct body) (path : String) :
    checkPublicBucket path (describedBlock kind labels body) =
      publicBucketWarnings path (labels.head?.getD "") (attributeList body) := by
  unfold checkPublicBucket publicBucketWarnings
  rw [describedBlock_get? _ _ distinct, describedBlock_type]
  cases (attributeList body).lookup "acl" with
  | none => simp
  | some e =>
    simp only [Option.bind_some, Option.any_some]
    by_cases publicRead : isPublicReadText e = true
    · rw [(resolveLiteral_eq_publicRead e).mpr publicRead]
      simp [publicRead]
    · -- whatever `e` resolves to, it is not `public-read`
      rw [Bool.not_eq_true] at publicRead
      simp only [publicRead, Bool.false_eq_true, and_false, if_false]
      split
      · rename_i acl resolved
        have other : acl ≠ Catalog.publicReadAcl := by
          rintro rfl
          simp [(resolveLiteral_eq_publicRead e).mp (toOption_eq_some.mp resolved)] at publicRead
        simp [other]
      · rfl

theorem checkRequiredTags_describedBlock (distinct : NamesDistinct body) (path : String) :
    checkRequiredTags path (describedBlock kind labels body) =
      tagWarnings path (attributeList body) := by
  have declared : (describedBlock kind labels body).has "tags" =
      ((attributeList body).lookup "tags").isSome := by
    rw [Block.has, describedBlock_names, contains_map_fst]
  unfold checkRequiredTags tagWarnings
  rw [declared, describedBlock_get? _ _ distinct]
  cases (attributeList body).lookup "tags" with
  | none => rfl
  | some e =>
    simp only [Option.isSome_some, Bool.not_true, Bool.false_eq_true, if_false, Option.bind_some]
    split
    · -- a mapping value comes from a mapping expression, whose keys it keeps
      rename_i es resolved
      have resolved := toOption_eq_some.mp resolved
      obtain ⟨kvs, rfl⟩ := eq_map_of_resolveLiteral resolved
      obtain ⟨es', entries, same⟩ := resolveLiteral_map_eq_ok.mp resolved
      cases same
      simp only [resolved, toOption_ok, Option.isSome_some, if_true]
      congr 1
      refine List.filter_congr fun t _ => ?_
      rw [hasKey_resolveEntries entries]
      simp [Entries.hasKey]
    · rename_i notMap
      cases e with
      | map kvs =>
        cases resolution : resolveLiteral (.map kvs) with
        | error failure => simp [resolution]
        | ok v =>
          obtain ⟨es, -, rfl⟩ := resolveLiteral_map_eq_ok.mp resolution
          exact (notMap es (by simp [resolution])).elim
      | _ => rfl

end Checks

/-! ## The warnings of a block -/

/-- The warnings of the block of a body: for a resource, those of its deprecated type, its
public bucket and its tags, in that order; for a variable, none. -/
theorem describedBlock_warnings {kind : String} {labels : List String} {body : Entries}
    (distinct : NamesDistinct body) (path : String) :
    (checkBlock path (describedBlock kind labels body)).filter (·.severity == .warn) =
      if kind = "resource" then resourceWarnings path labels body else [] := by
  unfold checkBlock
  rw [describedBlock_kind]
  by_cases resource : kind = "resource"
  · rw [if_pos resource, if_pos resource]
    simp only [resourceChecks, List.flatMap_cons, List.flatMap_nil, List.append_nil,
      ← List.append_assoc, List.filter_append,
      filter_severity_of_all (warnChecks_warn path _),
      filter_severity_of_ne (checkSecretAttributes_error path _)
        (by decide : Severity.error ≠ .warn), List.append_nil]
    rw [checkDeprecatedResource_describedBlock, checkPublicBucket_describedBlock distinct,
      checkRequiredTags_describedBlock distinct, resourceWarnings]
  · rw [if_neg resource, if_neg resource]
    simp only [variableChecks, List.flatMap_cons, List.flatMap_nil, List.append_nil]
    exact filter_severity_of_ne (checkVariableDefault_error path _)
      (by decide : Severity.error ≠ .warn)

/-- In a document where no block body declares two attributes of one unquoted name, the
warnings of the blocks it is read into are, block by block in order: for a resource, one for
a deprecated type with its note, one when it is a storage bucket whose `acl` is the text
`public-read` (quoted or not), then one when it declares no `tags`, or, when its `tags` is a
mapping with a static value, one per required tag missing from the unquoted keys of that
mapping, in the catalog's order, and none when `tags` has no static value or is not a
mapping; for a variable, none. The expressions that are the text `public-read` are those
that resolve to it. -/
theorem resource_warnings (path : String) (doc : Entries) {blocks : List Block}
    (read : blocksOf doc = .ok blocks)
    (distinct : ∀ x ∈ labelledBodies doc, NamesDistinct x.2.2) :
    blocks.map (fun b => (checkBlock path b).filter (·.severity == .warn)) =
        (sortedBodies doc).map (fun x =>
          if x.1 = "resource" then resourceWarnings path x.2.1 x.2.2 else []) ∧
      ∀ e, isPublicReadText e = true ↔ resolveLiteral e = .ok (.str Catalog.publicReadAcl) := by
  obtain ⟨-, rfl⟩ := blocksOf_eq_ok.mp read
  refine ⟨?_, fun e => (resolveLiteral_eq_publicRead e).symm⟩
  rw [List.map_map]
  refine List.map_congr_left fun x member => describedBlock_warnings (distinct x ?_) path
  exact (List.mergeSort_perm _ _).mem_iff.mp member

/-- A public bucket with a quoted `acl` and tags lacking `Project` gets both warnings. -/
theorem resource_warnings_bucket :
    let doc : Entries := [(.str "resource", .map [(.str "aws_s3_bucket", .map [(.str "logs",
      .map [(.str "__start_line__", .int 1), (.str "acl", .str "\"public-read\""),
        (.str "tags", .map [(.str "\"Owner\"", .str "ops"), (.str "Environment", .str "dev"),
          (.str "__start_line__", .int 3)])])])])]
    let blocks := (sortedBodies doc).map blockOf
    blocksOf doc = .ok blocks ∧ (∀ x ∈ labelledBodies doc, NamesDistinct x.2.2) ∧
      (blocks.map (fun b => (checkBlock "main.tf" b).filter (·.severity == .warn)) =
          (sortedBodies doc).map (fun x =>
            if x.1 = "resource" then resourceWarnings "main.tf" x.2.1 x.2.2 else []) ∧
        ∀ e, isPublicReadText e = true ↔ resolveLiteral e = .ok (.str Catalog.publicReadAcl)) := by
  intro doc blocks
  have read : blocksOf doc = .ok blocks := blocksOf_eq_ok.mpr ⟨by decide, rfl⟩
  have distinct : ∀ x ∈ labelledBodies doc, NamesDistinct x.2.2 := by
    unfold NamesDistinct
    decide
  exact ⟨read, distinct, resource_warnings "main.tf" doc read distinct⟩

end Terraform

end IacLint
