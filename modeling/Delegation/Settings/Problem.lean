/-!
# Problems in settings

What is wrong with a setting that could be read. A problem names the setting, with dots
between the names of nested ones, and the rule that it breaks.
-/

namespace Delegation
namespace Settings

/-- The rules that a setting can break. -/
inductive Rule
  /-- There are too few entries. -/
  | length
  /-- An entry is not a written pair of names. -/
  | allowedCallerFormat
  /-- A number is too small. -/
  | range
  /-- A text is not an absolute URL. -/
  | url
  /-- The settings of a service have a problem. -/
  | invalidService
  deriving DecidableEq

/-- The short name of a rule. -/
def Rule.code : Rule → String
  | length => "length"
  | allowedCallerFormat => "allowed_caller_format"
  | range => "range"
  | url => "url"
  | invalidService => "invalid_federated_service"

/-- A setting and the rule that it breaks. -/
structure Problem where
  /-- The name of the setting. -/
  field : String
  /-- The broken rule. -/
  rule : Rule
  deriving DecidableEq

namespace Problem

/-- The written form of a problem. -/
def render (problem : Problem) : String :=
  problem.field ++ ":" ++ problem.rule.code

/-- The problem of a setting that is nested in another one. -/
def within (outer : String) (problem : Problem) : Problem :=
  { problem with field := outer ++ "." ++ problem.field }

/-- The problem of a setting, unless the rule is kept. -/
def check (kept : Bool) (field : String) (rule : Rule) : List Problem :=
  if kept then [] else [⟨field, rule⟩]

end Problem
end Settings
end Delegation
