import ScopeResolution.Source.DiagnosticLog
import ScopeResolution.Toml.Document

/-! # Settings

The limits that a resolver obeys, and how a TOML document states them. Keys that are left out keep
their defaults; keys that mean nothing are refused. -/

namespace ScopeResolution

/-- The limits that a resolver obeys. -/
structure Settings where
  /-- The error budget. -/
  budget : Budget := {}
  /-- How many levels deep lookups may be nested. -/
  maxDepth : Nat := 256
  /-- Whether function and block tables are released when they are closed. -/
  discardClosedScopes : Bool := true
deriving DecidableEq, Repr, Inhabited

/-- Why a document states no settings. -/
inductive SettingsError where
  /-- The document is not TOML, has unknown keys or has values of the wrong kind. -/
  | malformed
  /-- Lookups would not be allowed a single level. -/
  | zeroDepth
deriving DecidableEq, Repr, Inhabited

/-- What a reader is told when lookups would not be allowed a single level. -/
def SettingsError.zeroDepthMessage : String := "max_depth must be at least 1"

namespace Settings

/-- The count that a value states; the default when there is no value. -/
def count? (default : Nat) : Option Toml.Value → Option Nat
  | none => some default
  | some (.integer value) => if 0 ≤ value then some value.toNat else none
  | some _ => none

/-- The truth value that a value states; the default when there is no value. -/
def flag? (default : Bool) : Option Toml.Value → Option Bool
  | none => some default
  | some (.boolean value) => some value
  | some _ => none

/-- The budget with the limits that two values state. -/
def budgetOf? (maxErrors warningsAsErrors : Option Toml.Value) : Option Budget := do
  let default : Budget := {}
  let maxErrors ← count? default.maxErrors maxErrors
  let warningsAsErrors ← flag? default.warningsAsErrors warningsAsErrors
  some { maxErrors, warningsAsErrors }

/-- The budget that a value states: a table by its keys, an array by its first two items. -/
def budget? : Option Toml.Value → Option Budget
  | none => some {}
  | some (.table _ entries) =>
    if entries.all fun entry => entry.1 ∈ ["max_errors", "warnings_as_errors"] then
      budgetOf? (entries.lookup "max_errors") (entries.lookup "warnings_as_errors")
    else none
  | some (.array items) => budgetOf? items[0]? items[1]?
  | some _ => none

/-- The settings that the entries of a document state. -/
def ofEntries? (entries : Toml.Entries) : Option Settings := do
  let default : Settings := {}
  guard (entries.all fun entry =>
    entry.1 ∈ ["diagnostics", "max_depth", "discard_closed_scopes"])
  let budget ← budget? (entries.lookup "diagnostics")
  let maxDepth ← count? default.maxDepth (entries.lookup "max_depth")
  let discardClosedScopes ←
    flag? default.discardClosedScopes (entries.lookup "discard_closed_scopes")
  some { budget, maxDepth, discardClosedScopes }

/-- The settings that a TOML document states. -/
def ofToml (text : String) : Except SettingsError Settings :=
  match (Toml.parse text).bind ofEntries? with
  | none => .error .malformed
  | some settings => if settings.maxDepth = 0 then .error .zeroDepth else .ok settings

end Settings

end ScopeResolution
