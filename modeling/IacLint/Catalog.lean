import IacLint.Text.Case
import IacLint.Text.Search

/-!
# Rule tables

The fixed tables the checks consult: words that mark a name as holding a secret,
required tags, and the resource types, modules and parameters the checks warn about,
each with the reason given for it. Matching against the tables is by plain substring
or exact key, so an entry that is part of a longer word still matches.

## Main definitions

* `secretKeywords`, `containsSecretKeyword` — names that look secret-bearing
* `requiredTags`, `terraformDeprecated` — tables of infrastructure blocks
* `reservedTaskKeys`, `requiredTaskFields`, `deprecatedModules` — tables of playbook tasks
* `deprecatedResourceTypes`, `disallowedParameters` — tables of manifests
-/

namespace IacLint.Catalog

/-- Words that mark a name as holding a secret. -/
def secretKeywords : List String := ["password", "secret", "token", "key", "pwd", "access"]

/-- Whether the lower-case form of `name` contains a secret keyword. -/
def containsSecretKeyword (name : String) : Bool :=
  let lowered := Text.lower name
  secretKeywords.any fun k => Text.occursIn k lowered

/-- The resource type of a storage bucket. -/
def storageBucketType : String := "aws_s3_bucket"

/-- The access setting that makes a bucket publicly readable. -/
def publicReadAcl : String := "public-read"

/-- Tags every resource must carry. -/
def requiredTags : List String := ["Environment", "Owner", "Project"]

/-- Deprecated resource types, each with the reason. -/
def terraformDeprecated : List (String × String) := [
  ("aws_db_instance", "This resource is deprecated, use aws_rds_instance instead."),
  ("aws_elb", "This resource is deprecated, use aws_lb instead."),
  ("aws_elasticsearch_domain",
    "This resource is deprecated, use aws_opensearch_domain instead."),
  ("aws_iam_policy_attachment",
    "This resource is deprecated, use aws_iam_role_policy_attachment " ++
    "or aws_iam_user_policy_attachment instead."),
  ("aws_launch_configuration",
    "This resource is deprecated, use aws_autoscaling_group with launch template instead."),
  ("aws_acm_certificate_validation",
    "Deprecated in favor of aws_acm_certificate with validation blocks."),
  ("aws_cloudwatch_event_rule",
    "This resource is deprecated, use aws_cloudwatch_event_rule (newer schema) or " ++
    "aws_eventbridge_rule."),
  ("aws_route53_record",
    "Use caution, certain types or configurations may be deprecated; check latest " ++
    "provider docs."),
  ("aws_sns_topic_subscription", "Deprecated in favor of aws_sns_subscription."),
  ("aws_spot_instance_request",
    "This resource is deprecated, use aws_spot_fleet_request or aws_ec2_spot_fleet instead."),
  ("aws_elastic_beanstalk_environment",
    "Check if using legacy configs; aws_elastic_beanstalk_environment is still supported " ++
    "but monitor provider updates."),
  ("aws_iam_group_policy_attachment", "Deprecated, prefer aws_iam_group_policy.")]

/-- Task keys that are never modules. -/
def reservedTaskKeys : List String := ["name", "become", "vars"]

/-- Fields every task must have. -/
def requiredTaskFields : List String := ["name"]

/-- Deprecated or discouraged modules, each with the reason. -/
def deprecatedModules : List (String × String) := [
  ("raw", "The 'raw' module is deprecated; consider using 'command' or other modules."),
  ("command",
    "The 'command' module is sometimes discouraged in favor of more specific modules."),
  ("shell", "The 'shell' module can be risky and is discouraged for idempotency reasons."),
  ("ec2", "The 'ec2' module is deprecated; use 'amazon.aws.ec2_instance' from the " ++
    "Amazon AWS Collection instead."),
  ("docker",
    "The 'docker' module is deprecated; use 'community.docker.docker_container' instead."),
  ("git", "Older 'git' module versions might be deprecated; ensure you use the latest " ++
    "from 'community.general.git'."),
  ("service", "The 'service' module is discouraged in favor of OS-specific modules like " ++
    "'systemd' or 'service_facts'."),
  ("yum", "The 'yum' module is discouraged for newer systems; use 'dnf' module on " ++
    "Fedora/RHEL 8+."),
  ("apt", "The 'apt' module should be replaced with 'apt_key' and 'apt_repository' for " ++
    "finer control where applicable."),
  ("setup", "Some facts gathered by 'setup' module may be deprecated; use " ++
    "'ansible_facts' with targeted filters."),
  ("iptables", "Deprecated in favor of 'community.general.iptables' or 'ufw' modules " ++
    "depending on your firewall system."),
  ("firewalld", "Legacy 'firewalld' module replaced by 'community.general.firewalld'."),
  ("user", "Deprecated options in 'user' module replaced with improved parameters in " ++
    "latest versions.")]

/-- Deprecated resource types of manifests. -/
def deprecatedResourceTypes : List String := [
  "execpipe", "database", "concat::fragment", "filebucket", "nagios_service", "package",
  "resources", "vcsrepo", "apache::vhost", "mysql::db", "ssh_authorized_key"]

/-- Parameters manifests must not use. -/
def disallowedParameters : List String := [
  "force_destroy", "skip_final_snapshot", "public_ip", "allow_remote_access", "password",
  "secret_key", "access_key", "enable_http_access", "insecure_ssl", "admin_password"]

end IacLint.Catalog
