import IacLint.Terraform.Block
import IacLint.Catalog
import IacLint.Finding

/-!
# Checks of resource and variable blocks

A resource block is checked, in this order, for a deprecated type, a publicly readable
storage bucket, missing tags, and attributes that look secret-bearing and hold a
non-empty literal text. A variable block is checked for a secret-looking name with a
non-empty literal default. Expressions without a static value are never flagged as
secrets, and a `tags` attribute without a static mapping value is not compared.

## Main definitions

* `resourceChecks`, `variableChecks` — the checks in order
* `checkBlock` — the findings of one block
-/

namespace IacLint.Terraform

open IacLint.Data

/-- A check of one block of a file. -/
abbrev BlockCheck := String → Block → List Finding

/-- A deprecated resource type, with the reason. -/
def checkDeprecatedResource : BlockCheck := fun path b =>
  match Catalog.terraformDeprecated.lookup b.type with
  | some why => [⟨path, .warn, "Resource type '" ++ b.type ++ "' is deprecated: " ++ why⟩]
  | none => []

/-- A storage bucket whose access setting is exactly `public-read`. -/
def checkPublicBucket : BlockCheck := fun path b =>
  match b.get? "acl" with
  | some (.str acl) =>
    if b.type = Catalog.storageBucketType ∧ acl = Catalog.publicReadAcl then
      [⟨path, .warn, "S3 bucket ACL is set to public-read (publicly readable)"⟩]
    else []
  | _ => []

/-- No `tags` attribute at all, or a static tag mapping without a required tag. -/
def checkRequiredTags : BlockCheck := fun path b =>
  if !b.has "tags" then [⟨path, .warn, "Resource missing 'tags' attribute entirely"⟩]
  else
    match b.get? "tags" with
    | some (.map tags) =>
      (Catalog.requiredTags.filter fun t => !Entries.hasKey tags (.str t)).map fun t =>
        ⟨path, .warn, "Resource missing required tag '" ++ t ++ "'"⟩
    | _ => []

/-- The attribute names that look secret-bearing and hold a non-empty literal text. -/
def secretTextNames (b : Block) : List String :=
  b.names.filter fun n =>
    Catalog.containsSecretKeyword n &&
      match b.get? n with
      | some (.str s) => s ≠ ""
      | _ => false

/-- Attributes that look secret-bearing and hold a non-empty literal text. -/
def checkSecretAttributes : BlockCheck := fun path b =>
  (secretTextNames b).map fun n =>
    ⟨path, .error, "Resource attribute '" ++ n ++ "' may contain hardcoded secret"⟩

/-- A secret-looking variable with a non-empty literal text default. -/
def checkVariableDefault : BlockCheck := fun path b =>
  if Catalog.containsSecretKeyword b.name then
    match b.get? "default" with
    | some (.str s) =>
      if s ≠ "" then [⟨path, .error, "Variable '" ++ b.name ++ "' has a hardcoded default secret"⟩]
      else []
    | _ => []
  else []

/-- The checks of a resource block, in order. -/
def resourceChecks : List BlockCheck :=
  [checkDeprecatedResource, checkPublicBucket, checkRequiredTags, checkSecretAttributes]

/-- The checks of a variable block. -/
def variableChecks : List BlockCheck := [checkVariableDefault]

/-- The findings of a block: resource checks for a resource, variable checks for any
other kind, in order. -/
def checkBlock (path : String) (b : Block) : List Finding :=
  (if b.kind = "resource" then resourceChecks else variableChecks).flatMap fun c => c path b

end IacLint.Terraform
