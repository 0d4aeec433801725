/-!
# Findings

What the advisory rules report about a canvas. A finding never stops an export.
-/

namespace BotCanvas

/-- What a finding is about. -/
inductive Concern
  | optimization
  | security
  | logic
  | style
  | accessibility
  deriving DecidableEq

/-- How much a finding matters. -/
inductive Severity
  | low
  | medium
  | high
  | critical
  deriving DecidableEq

namespace Concern

/-- The name of a concern. -/
def name : Concern → String
  | optimization => "optimization"
  | security => "security"
  | logic => "logic"
  | style => "style"
  | accessibility => "accessibility"

end Concern

namespace Severity

/-- The name of a severity. -/
def name : Severity → String
  | low => "low"
  | medium => "medium"
  | high => "high"
  | critical => "critical"

end Severity

/-- A finding of an advisory rule. -/
structure Finding where
  rule : String
  title : String
  description : String
  concern : Concern
  severity : Severity
  blocks : List String
  suggestion : String
  deriving DecidableEq

end BotCanvas
