import IacLint.Text.CodeRanges
import IacLint.Text.Blank
import IacLint.Text.Word
import IacLint.Text.Printable
import IacLint.Text.Digit
import IacLint.Text.Case
import IacLint.Text.Quoted
import IacLint.Number.Decimal
import IacLint.Number.Format
import IacLint.Number.Parse
import IacLint.Data.Calendar
import IacLint.Data.Value
import IacLint.Data.Value.Text
import IacLint.Json.Read
import IacLint.Json.Write
import IacLint.Text.Search
import IacLint.Severity
import IacLint.Finding
import IacLint.Catalog
import IacLint.Report
import IacLint.Terraform.Block
import IacLint.Terraform.Checks
import IacLint.Hcl.Scan
import IacLint.Hcl.Render
import IacLint.Hcl.Read
import IacLint.Text.Utf8
import IacLint.Files.Path
import IacLint.Files.Tree
import IacLint.Files.Walk
import IacLint.Scan
import IacLint.Terraform.Rule
import IacLint.Text.Pattern
import IacLint.Yaml.Scan
import IacLint.Yaml.Parse
import IacLint.Yaml.Resolve
import IacLint.Yaml.Scalar
import IacLint.Yaml.Construct
import IacLint.Yaml.Load
import IacLint.Ansible.Playbook
import IacLint.Ansible.Checks
import IacLint.Puppet.Manifest
import IacLint.Puppet.Checks
import IacLint.Lint.Output
import IacLint.Lint.Runner
import IacLint.Host.Process
import IacLint.Host.Test
import IacLint.Number.Conversion
import IacLint.Text.Regex
import IacLint.Tools.Options
import IacLint.Tools.Printf
import IacLint.Tools.Echo
import IacLint.Tools.Cat
import IacLint.Tools.Wc
import IacLint.Tools.Lines
import IacLint.Tools.Names
import IacLint.Tools.Expr
import IacLint.Tools.Sleep
import IacLint.Tools.Ls
import IacLint.Tools.Grep
import IacLint.Tools.Tr
import IacLint.Tools.Cut
import IacLint.Tools.Sed.Script
import IacLint.Tools.Sed.Edit
import IacLint.Tools.Table
import IacLint.Shell.Syntax
import IacLint.Shell.Parse
import IacLint.Shell.Pattern
import IacLint.Shell.Arith
import IacLint.Shell.State
import IacLint.Shell.Getopts
import IacLint.Shell.Words
import IacLint.Shell.Builtin
import IacLint.Shell.Run
import IacLint.Host.Launch
import IacLint.Config
import IacLint.Engine
import IacLint.Cli.Args
import IacLint.Cli.Run
import IacLint.Files.Snapshot
import IacLint.Main
import IacLint.Proofs.Tally
import IacLint.Proofs.PathForm
import IacLint.Proofs.Resolve
import IacLint.Proofs.Reach
import IacLint.Proofs.WalkOrder
import IacLint.Proofs.FileByFile
import IacLint.Proofs.BlockReading
import IacLint.Proofs.SecretErrors
import IacLint.Proofs.Escapes
import IacLint.Proofs.ResourceWarnings
import IacLint.Proofs.DocumentBlocks
import IacLint.Proofs.PlaybookShape
import IacLint.Proofs.PlaybookFindings
import IacLint.Proofs.TemplateReferences
import IacLint.Proofs.PatternLanguage
import IacLint.Proofs.ManifestChecks
import IacLint.Proofs.LinterFindings
import IacLint.Proofs.WorkflowCommands
import IacLint.Proofs.ConfigSources
