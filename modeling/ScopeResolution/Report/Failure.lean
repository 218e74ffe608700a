import ScopeResolution.Source.DiagnosticLog
import ScopeResolution.Table.Filing

/-! # Failures

The conditions after which the operation at hand gives up: a defect of what it was asked to do, a
limit that is reached, or a handle whose entity or table is gone. -/

namespace ScopeResolution

/-- What is wrong with an entity that reaches the wrong place. -/
inductive Defect where
  /-- The type of a function is not a function type. -/
  | noSignature
  /-- A namespace or a namespace alias is declared inside a class or function. -/
  | misplacedNamespace
  /-- A namespace alias stands for something else than a namespace. -/
  | aliasOfNoNamespace
  /-- A using-declaration names an alias. -/
  | aliasOfAlias
  /-- A table has no place for the entity. -/
  | refused (refusal : Refusal)
  /-- Something that is not a function has no function body. -/
  | noFunctionBody (what : String)
  /-- The entity does not open a region of the wanted kind. -/
  | opensNo (kind : TableKind)
  /-- A qualifier is neither a class nor a namespace. -/
  | notQualifier
  /-- The target of a using directive is neither a class nor a namespace. -/
  | notUsable
  /-- A base is not a class. -/
  | notBase
  /-- Something that is not a class cannot be complete. -/
  | notSealable
deriving DecidableEq, Repr, Inhabited

/-- What a reader is told about a defect. -/
def Defect.message : Defect → String
  | .noSignature => "function type does not start with a signature"
  | .misplacedNamespace => "namespaces belong at namespace scope"
  | .aliasOfNoNamespace => "alias target is not a namespace"
  | .aliasOfAlias => "an alias cannot name another alias"
  | .refused refusal => refusal.message
  | .noFunctionBody what => s!"a {what} has no function body"
  | .opensNo kind => s!"does not open a {kind.text} scope"
  | .notQualifier => "qualifier is not a class or namespace"
  | .notUsable => "using target is not a namespace"
  | .notBase => "base is not a class"
  | .notSealable => "only classes can be sealed"

/-- Why an operation gave up. -/
inductive Failure where
  /-- The error budget is used up. -/
  | budgetExhausted (exhausted : BudgetExhausted)
  /-- Another table than the expected one is innermost. -/
  | scopeImbalance (expected found : TableId)
  /-- The global table cannot be closed. -/
  | globalClosed
  /-- Tables are open at the end of the input. -/
  | unclosedScopes (count : Nat)
  /-- An entity is not fit for what was asked. -/
  | malformedEntity (name : String) (defect : Defect)
  /-- The class of this qualified name is complete. -/
  | sealedClass (name : String)
  /-- A table refused an entity of this name. -/
  | refused (name : String) (refusal : Refusal)
  /-- A handle refers to nothing any more. -/
  | staleHandle (what : Referent)
  /-- A lookup is nested deeper than the limit. -/
  | recursionLimit (limit : Nat)
  /-- No function is open. -/
  | notInFunction
deriving DecidableEq, Repr, Inhabited

namespace Failure

/-- What a reader is told about a failure. -/
def message : Failure → String
  | .budgetExhausted exhausted => exhausted.message
  | .scopeImbalance expected found =>
    s!"scope stack imbalance: expected to close {expected.text}, but {found.text} is innermost"
  | .globalClosed => "the global scope cannot be closed"
  | .unclosedScopes count => s!"{count} scope(s) left open at end of input"
  | .malformedEntity name defect => s!"malformed entity `{name}`: {defect.message}"
  | .sealedClass name => s!"class `{name}` is complete and can no longer change"
  | .refused name _ => s!"cannot file `{name}`"
  | .staleHandle what => s!"stale {what.text} handle"
  | .recursionLimit limit => s!"name resolution nested deeper than {limit} levels"
  | .notInFunction => "no enclosing function scope"

/-- The stable code of a failure. -/
def code : Failure → String
  | .budgetExhausted _ => "diagnostics::error_limit"
  | .scopeImbalance .. => "resolve::scope_imbalance"
  | .globalClosed => "resolve::pop_global"
  | .unclosedScopes _ => "resolve::unclosed_scopes"
  | .malformedEntity .. => "resolve::malformed_entity"
  | .sealedClass _ => "resolve::sealed_class"
  | .refused .. => "resolve::table"
  | .staleHandle _ => "resolve::stale_handle"
  | .recursionLimit _ => "resolve::recursion_limit"
  | .notInFunction => "resolve::not_in_function"

/-- The advice that goes with a failure, if there is any. -/
def help : Failure → Option String
  | .budgetExhausted _ => some "fix the reported errors or raise `max_errors`"
  | .recursionLimit _ => some "raise `max_depth` if the program is legitimate"
  | _ => none

/-- The refusal behind a failure, if there is one. -/
def cause : Failure → Option Refusal
  | .refused _ refusal => some refusal
  | _ => none

end Failure

end ScopeResolution
