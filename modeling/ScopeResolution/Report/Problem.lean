import ScopeResolution.Declaration.Role
import ScopeResolution.Report.Failure

/-! # Problems

A problem is a mistake in the program that is read. It is reported into the diagnostic log, and
resolution goes on. -/

namespace ScopeResolution

/-- A mistake in the program that is read. -/
inductive Problem where
  /-- A name stands for nothing. -/
  | undefined (name : String) (location : Location) (suggestions : List String)
  /-- Several entities answer the same query. -/
  | ambiguous (name : String) (location : Location) (candidates : List String)
  /-- A qualifier is neither a class nor a namespace. -/
  | notAScope (name : String) (location : Location)
  /-- A name is declared again as a thing that cannot share it. -/
  | conflictingKind (name : String) (location : Location) (role : Role) (prior : String)
      (priorRole : Role)
  /-- A name is declared again in the same role, but differently. -/
  | redeclaration (name : String) (location : Location) (prior : String) (priorLocation : Location)
  /-- A free function is overloaded inside a function. -/
  | localOverload (name : String) (location : Location)
deriving DecidableEq, Repr, Inhabited

namespace Problem

/-- Where a problem is reported. -/
def location : Problem → Location
  | .undefined _ location _ => location
  | .ambiguous _ location _ => location
  | .notAScope _ location => location
  | .conflictingKind _ location _ _ _ => location
  | .redeclaration _ location _ _ => location
  | .localOverload _ location => location

/-- The stable code of a problem. -/
def code : Problem → String
  | .undefined .. => "resolve::undefined"
  | .ambiguous .. => "resolve::ambiguous"
  | .notAScope .. => "resolve::not_a_scope"
  | .conflictingKind .. => "resolve::conflicting_kind"
  | .redeclaration .. => "resolve::redeclaration"
  | .localOverload .. => "resolve::local_overload"

/-- What a reader is told about a problem. -/
def message : Problem → String
  | .undefined name _ _ => s!"cannot find `{name}` in this scope"
  | .ambiguous name _ _ => s!"reference to `{name}` is ambiguous"
  | .notAScope name _ => s!"`{name}` is not a class or namespace"
  | .conflictingKind name _ role _ _ => s!"`{name}` redeclared as {role.text}"
  | .redeclaration name _ _ _ => s!"conflicting declaration of `{name}`"
  | .localOverload name _ => s!"cannot overload `{name}` in block scope"

/-- The advice that goes with a problem, if there is any. -/
def help : Problem → Option String
  | .ambiguous .. => some "qualify the name to pick one candidate"
  | .localOverload .. => some "move the overloads to namespace scope"
  | _ => none

/-- The notes under the message. -/
def notes : Problem → List String
  | .undefined _ _ suggestions => suggestions.map fun name => s!"did you mean `{name}`?"
  | .ambiguous _ _ candidates => candidates.map fun name => s!"candidate: `{name}`"
  | .conflictingKind _ _ _ prior priorRole => [s!"`{prior}` was declared as {priorRole.text}"]
  | .redeclaration _ _ prior priorLocation =>
    [s!"`{prior}` first declared at {priorLocation.text}"]
  | .notAScope .. => []
  | .localOverload .. => []

/-- The diagnostic that reports a problem: always an error. -/
def toDiagnostic (problem : Problem) : Diagnostic where
  severity := .error
  code := some problem.code
  message := problem.message
  location := problem.location
  notes := problem.notes

end Problem

/-- Reports a problem; fails when that uses the error budget up. -/
def DiagnosticLog.report (log : DiagnosticLog) (problem : Problem) :
    Except Failure Unit × DiagnosticLog :=
  match log.record problem.toDiagnostic with
  | (.ok (), log) => (.ok (), log)
  | (.error exhausted, log) => (.error (.budgetExhausted exhausted), log)

/-- An answer that comes with at most one problem to report. -/
structure Judgement (α : Type) where
  /-- The answer. -/
  answer : α
  /-- What is to be reported. -/
  problem : Option Problem := none
deriving Repr, Inhabited

/-- Reports what a judgement found and hands its answer on, unless that uses the budget up. -/
def DiagnosticLog.settle {α : Type} (log : DiagnosticLog) (judged : Except Failure (Judgement α)) :
    Except Failure α × DiagnosticLog :=
  match judged with
  | .error failure => (.error failure, log)
  | .ok ⟨answer, none⟩ => (.ok answer, log)
  | .ok ⟨answer, some problem⟩ =>
    match log.report problem with
    | (.ok (), log) => (.ok answer, log)
    | (.error failure, log) => (.error failure, log)

namespace DiagnosticLog

@[simp] theorem report_snd (log : DiagnosticLog) (problem : Problem) :
    (log.report problem).2 = log.append problem.toDiagnostic := by
  unfold report; split <;> simp_all [record]

end DiagnosticLog

end ScopeResolution
