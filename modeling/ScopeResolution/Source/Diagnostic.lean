import ScopeResolution.Source.Location

/-! # Diagnostics

One message about the source text, with a severity, an optional stable code and further notes. -/

namespace ScopeResolution

/-- How serious a diagnostic is. -/
inductive Severity where
  /-- Counts against the error budget. -/
  | error
  /-- Does not stop anything, unless warnings are promoted. -/
  | warning
  /-- Further context. -/
  | note
deriving DecidableEq, Repr, Inhabited

/-- The word that opens the text of a diagnostic. -/
def Severity.text : Severity → String
  | .error => "error"
  | .warning => "warning"
  | .note => "note"

/-- A message reported at a location. -/
structure Diagnostic where
  /-- How serious it is. -/
  severity : Severity
  /-- The stable code, if there is one. -/
  code : Option String := none
  /-- The main message. -/
  message : String
  /-- Where it was reported. -/
  location : Location
  /-- Further notes, in order. -/
  notes : List String := []
deriving DecidableEq, Repr, Inhabited

namespace Diagnostic

/-- The severity, the code in brackets if there is one, the location and the message; each note
follows on an indented line of its own. -/
def text (diagnostic : Diagnostic) : String :=
  let code := diagnostic.code.elim "" fun code => s!"[{code}]"
  let notes := diagnostic.notes.map fun note => s!"\n  note: {note}"
  s!"{diagnostic.severity.text}{code} at {diagnostic.location.text}: {diagnostic.message}"
    ++ String.join notes

/-- The same diagnostic, with a warning raised to an error. -/
def promoted (diagnostic : Diagnostic) : Diagnostic :=
  if diagnostic.severity = .warning then { diagnostic with severity := .error } else diagnostic

end Diagnostic

end ScopeResolution
