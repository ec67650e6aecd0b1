import IacLint.Config
import IacLint.Terraform.Rule
import IacLint.Ansible.Checks
import IacLint.Puppet.Checks
import IacLint.Lint.Runner

/-!
# Rules by dialect

A scan runs the rule of one dialect: `terraform`, `ansible` or `puppet`. The manifest
rule runs the linter a configuration names, with the configuration's time limit.

## Main definitions

* `dialects` — the dialects
* `linterOf` — the linter a configuration names
* `ruleFor` — the rule of a dialect, or the complaint about an unknown one
-/

namespace IacLint

open IacLint.Files IacLint.Config

/-- The dialects, in the order complaints list them. -/
def dialects : List String := ["terraform", "ansible", "puppet"]

/-- The linter a configuration names: its command and its time limit, zero meaning
none. -/
def linterOf (c : ScanConfig) : Lint.PuppetLint :=
  Lint.PuppetLint.withLimit c.linterCommand.plain (some c.linterTimeout)

/-- The rule of a dialect on a tree, configured by `c`. -/
def ruleFor (t : Tree) (dialect : String) (c : ScanConfig) : Except String Rule :=
  if dialect == "terraform" then .ok (Terraform.terraformRule t)
  else if dialect == "ansible" then .ok (Ansible.ansibleRule t)
  else if dialect == "puppet" then
    let l := linterOf c
    .ok (Puppet.puppetRule t fun path => (l.run t path).mapError (·.message))
  else .error ("Unknown dialect " ++ Text.quote dialect ++ "; choose from " ++ ", ".intercalate dialects)

end IacLint
