import ScopeResolution.Source.Diagnostic

/-! # The diagnostic log

A log keeps every diagnostic given to it, in order, and counts errors and warnings against a
budget. Recording always keeps the diagnostic; it fails when the errors counted so far, this one
included, use the budget up, and it goes on failing until the log is taken. -/

namespace ScopeResolution

/-- The limits of a diagnostic log. -/
structure Budget where
  /-- The number of errors at which recording fails; zero stands for no limit. -/
  maxErrors : Nat := 100
  /-- Whether warnings are recorded as errors. -/
  warningsAsErrors : Bool := false
deriving DecidableEq, Repr, Inhabited

/-- The error budget is used up. -/
structure BudgetExhausted where
  /-- The number of errors that the budget allows. -/
  limit : Nat
deriving DecidableEq, Repr, Inhabited

/-- What a reader is told when the budget is used up. -/
def BudgetExhausted.message (exhausted : BudgetExhausted) : String :=
  s!"aborting after {exhausted.limit} errors"

/-- The diagnostics of one compilation unit since they were last taken. -/
structure DiagnosticLog where
  /-- The limits that recording obeys. -/
  budget : Budget := {}
  /-- The recorded diagnostics, oldest first. -/
  entries : List Diagnostic := []
  /-- The number of recorded errors. -/
  errors : Nat := 0
  /-- The number of recorded warnings. -/
  warnings : Nat := 0
deriving DecidableEq, Repr, Inhabited

namespace DiagnosticLog

/-- Whether the counted errors use the budget up. -/
def exhausted (log : DiagnosticLog) : Bool :=
  0 < log.budget.maxErrors && log.budget.maxErrors ≤ log.errors

/-- The diagnostic as this log keeps it: a warning becomes an error when the budget says so. -/
def admitted (log : DiagnosticLog) (diagnostic : Diagnostic) : Diagnostic :=
  if log.budget.warningsAsErrors then diagnostic.promoted else diagnostic

/-- The log with one more diagnostic kept and counted. -/
def append (log : DiagnosticLog) (diagnostic : Diagnostic) : DiagnosticLog :=
  let kept := log.admitted diagnostic
  { log with
    entries := log.entries ++ [kept]
    errors := log.errors + if kept.severity = .error then 1 else 0
    warnings := log.warnings + if kept.severity = .warning then 1 else 0 }

/-- Records a diagnostic; the answer says whether the budget still lasts. -/
def record (log : DiagnosticLog) (diagnostic : Diagnostic) :
    Except BudgetExhausted Unit × DiagnosticLog :=
  let log := log.append diagnostic
  (if log.exhausted then .error ⟨log.budget.maxErrors⟩ else .ok (), log)

/-- Records an error without code or notes. -/
def recordError (log : DiagnosticLog) (location : Location) (message : String) :
    Except BudgetExhausted Unit × DiagnosticLog :=
  log.record { severity := .error, message, location }

/-- Records a warning without code or notes. -/
def recordWarning (log : DiagnosticLog) (location : Location) (message : String) :
    Except BudgetExhausted Unit × DiagnosticLog :=
  log.record { severity := .warning, message, location }

/-- Hands the recorded diagnostics out and starts again with an empty log of the same budget. -/
def take (log : DiagnosticLog) : List Diagnostic × DiagnosticLog :=
  (log.entries, { budget := log.budget })

@[simp] theorem append_entries (log : DiagnosticLog) (diagnostic : Diagnostic) :
    (log.append diagnostic).entries = log.entries ++ [log.admitted diagnostic] := rfl

@[simp] theorem append_budget (log : DiagnosticLog) (diagnostic : Diagnostic) :
    (log.append diagnostic).budget = log.budget := rfl

@[simp] theorem record_snd (log : DiagnosticLog) (diagnostic : Diagnostic) :
    (log.record diagnostic).2 = log.append diagnostic := rfl

end DiagnosticLog

end ScopeResolution
