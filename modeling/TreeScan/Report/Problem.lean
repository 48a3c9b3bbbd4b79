import TreeScan.Text.Blank

/-!
# Problems

The kinds of problems that can be reported, each with a severity, a stable code
and a message.  A message is a template with a gap for each parameter.  A gap
without a parameter stays empty, and then the blanks and colons that dangle at
the end are dropped.  Parameters beyond the last gap are ignored.
-/

namespace TreeScan

/-- How bad a problem is. -/
inductive Severity where
  | error | warning
deriving DecidableEq, Repr

/-- A severity as it is shown. -/
def Severity.name : Severity → String
  | .error => "error"
  | .warning => "warning"

/-- A kind of problem. -/
inductive Problem where
  /-- A handler failed on a node.  The parameter is the failure. -/
  | internalError
  /-- The parameter is the construct. -/
  | unsupportedConstruct
  /-- The parameter is the name. -/
  | unknownSymbol
  /-- The parameters are the strategy and the node. -/
  | strategyFallback
deriving DecidableEq, Repr

namespace Problem

/-- The severity of a problem. -/
def severity : Problem → Severity
  | .strategyFallback => .warning
  | _ => .error

/-- The code of a problem. -/
def code : Problem → String
  | .internalError => "ferry::internal"
  | .unsupportedConstruct => "ferry::unsupported"
  | .unknownSymbol => "ferry::unknown_symbol"
  | .strategyFallback => "ferry::fallback"

/-- A message with gaps: the text before the first gap, and the text after each. -/
structure Template where
  head : String
  tail : List String
deriving DecidableEq, Repr

/-- The template of a problem's message. -/
def template : Problem → Template
  | .internalError => ⟨"internal transpiler error: ", [""]⟩
  | .unsupportedConstruct => ⟨"unsupported construct: ", [""]⟩
  | .unknownSymbol => ⟨"cannot resolve symbol '", ["'"]⟩
  | .strategyFallback => ⟨"falling back to ", [" for ", ""]⟩

/-- The pieces after the gaps with the parameters in the gaps. -/
def fill : List String → List String → String
  | [], _ => ""
  | piece :: pieces, [] => piece ++ fill pieces []
  | piece :: pieces, param :: params => param ++ piece ++ fill pieces params

/-- Whether a character may dangle at the end of a message with an empty gap. -/
def dangles (c : Char) : Bool := c == ' ' || c == ':'

/-- The message of a problem with some parameters. -/
def message (problem : Problem) (params : List String) : String :=
  let template := problem.template
  let text := template.head ++ fill template.tail params
  if params.length < template.tail.length then
    String.ofList (Text.dropEndWhile dangles text.toList)
  else text

example : message .strategyFallback ["plain call", "call f(1 args)"]
    = "falling back to plain call for call f(1 args)" := by decide
example : message .internalError [] = "internal transpiler error" := by decide
example : message .unsupportedConstruct ["label:"] = "unsupported construct: label:" := by decide
example : message .strategyFallback ["plain call"] = "falling back to plain call for" := by decide
example : message .unknownSymbol ["x", "y"] = "cannot resolve symbol 'x'" := by decide

end Problem

end TreeScan
