import Mathlib.Data.List.DropRight
import Mathlib.Data.List.Induction
import ScopeResolution.Source.DiagnosticLog

/-! # What a log accounts for

A log is asked to record diagnostics and to hand them out, in any order, and a call that fails has
recorded its diagnostic all the same. So the log always holds what it was given since the
diagnostics were last taken, and its counters are the numbers of errors and warnings among that
(`accounts_of_run`). Whether a call fails depends on the errors counted so far, and not on the
diagnostic that it gives. Hence a warning or a note is refused as well, once an error has used the
budget up and until the diagnostics are taken (`nonErrors_of_run`). -/

namespace ScopeResolution

/-- A diagnostic as it is kept under a budget: a warning is an error when the budget says so. -/
def Budget.kept (budget : Budget) (given : Diagnostic) : Diagnostic :=
  if budget.warningsAsErrors = true ∧ given.severity = .warning then
    { given with severity := .error }
  else given

namespace DiagnosticLog

/-- What a log can be asked for. -/
inductive Call where
  /-- Record an error without code or notes. -/
  | recordError (location : Location) (message : String)
  /-- Record a warning without code or notes. -/
  | recordWarning (location : Location) (message : String)
  /-- Record a diagnostic. -/
  | record (diagnostic : Diagnostic)
  /-- Hand the diagnostics out. -/
  | take
deriving DecidableEq

/-- Whether a call succeeds, and the log after it. -/
def ask (log : DiagnosticLog) : Call → Except BudgetExhausted Unit × DiagnosticLog
  | .recordError location message => log.recordError location message
  | .recordWarning location message => log.recordWarning location message
  | .record diagnostic => log.record diagnostic
  | .take => (.ok (), log.take.2)

/-- The log after some calls, one after the other, whether they fail or not. -/
def run (log : DiagnosticLog) (calls : List Call) : DiagnosticLog :=
  calls.foldl (fun log call => (log.ask call).2) log

/-- The calls with their answers. -/
def answers (log : DiagnosticLog) : List Call → List (Call × Except BudgetExhausted Unit)
  | [] => []
  | call :: rest => (call, (log.ask call).1) :: (log.ask call).2.answers rest

/-- The diagnostic that a call gives. -/
def Call.diagnostic? : Call → Option Diagnostic
  | .recordError location message => some { severity := .error, message, location }
  | .recordWarning location message => some { severity := .warning, message, location }
  | .record diagnostic => some diagnostic
  | .take => none

/-- What was given since the diagnostics were last taken. -/
def givenSinceTake (calls : List Call) : List Diagnostic :=
  (calls.rtakeWhile (· ≠ .take)).filterMap Call.diagnostic?

/-- Some call failed since the diagnostics were last taken. -/
def FailedSinceTake (budget : Budget) (calls : List Call) : Prop :=
  ∃ answered ∈ (answers { budget } calls).rtakeWhile (·.1 ≠ .take), answered.2 ≠ .ok ()

variable {log : DiagnosticLog} {calls : List Call} {call : Call} {given : Diagnostic}

/-! ## One call -/

/-- What is admitted is kept as the budget says. -/
theorem admitted_eq (log : DiagnosticLog) (given : Diagnostic) :
    log.admitted given = log.budget.kept given := by
  unfold admitted Budget.kept Diagnostic.promoted
  cases log.budget.warningsAsErrors <;> simp

/-- A call that gives a diagnostic records it. -/
theorem ask_of_diagnostic (gives : call.diagnostic? = some given) :
    log.ask call = log.record given := by
  cases call with
  | take => cases gives
  | _ => cases gives; rfl

/-- A call gives a diagnostic unless it takes them. -/
theorem eq_take_or_gives (call : Call) : call = .take ∨ ∃ given, call.diagnostic? = some given := by
  cases call with
  | take => exact Or.inl rfl
  | _ => exact Or.inr ⟨_, rfl⟩

/-- A call that gives a diagnostic takes none. -/
theorem ne_take_of_gives (gives : call.diagnostic? = some given) : call ≠ .take := by
  rintro rfl
  cases gives

/-- The budget is used up when there is a limit and as many errors were counted. -/
theorem exhausted_iff : log.exhausted = true ↔
    0 < log.budget.maxErrors ∧ log.budget.maxErrors ≤ log.errors := by
  simp [exhausted]

/-- No budget is used up before an error is counted. -/
theorem not_exhausted_new (budget : Budget) :
    ¬ ({ budget } : DiagnosticLog).exhausted = true := by
  rw [exhausted_iff]
  exact fun both => Nat.lt_irrefl 0 (Nat.lt_of_lt_of_le both.1 both.2)

/-- Recording fails when the budget is used up afterwards. -/
theorem record_fst (log : DiagnosticLog) (given : Diagnostic) :
    (log.record given).1 =
      if 0 < log.budget.maxErrors ∧ log.budget.maxErrors ≤ (log.append given).errors then
        .error ⟨log.budget.maxErrors⟩
      else .ok () := by
  show (if (log.append given).exhausted = true then _ else _) = _
  simp only [exhausted_iff, append_budget]

/-- A diagnostic that is kept as no error leaves the count of errors as it is. -/
theorem errors_append_of_ne (noError : (log.budget.kept given).severity ≠ .error) :
    (log.append given).errors = log.errors := by
  simp [append, admitted_eq, noError]

/-- Once the budget is used up, it stays so whatever is recorded. -/
theorem exhausted_append (exhausted : log.exhausted = true) (given : Diagnostic) :
    (log.append given).exhausted = true := by
  rw [exhausted_iff] at exhausted ⊢
  exact ⟨exhausted.1, Nat.le_trans exhausted.2 (Nat.le_add_right _ _)⟩

/-! ## Runs -/

/-- A longer run takes one more call. -/
theorem run_concat (log : DiagnosticLog) (calls : List Call) (call : Call) :
    log.run (calls ++ [call]) = ((log.run calls).ask call).2 := by
  simp [run]

/-- A longer run has one more answer. -/
theorem answers_concat (log : DiagnosticLog) (calls : List Call) (call : Call) :
    log.answers (calls ++ [call]) =
      log.answers calls ++ [(call, ((log.run calls).ask call).1)] := by
  induction calls generalizing log with
  | nil => rfl
  | cons first rest ih =>
      rw [List.cons_append, answers, ih, answers]
      rfl

/-- After the diagnostics are taken, none were given since. -/
theorem givenSinceTake_take (calls : List Call) : givenSinceTake (calls ++ [.take]) = [] := by
  simp [givenSinceTake]

/-- What is given comes behind what was given before. -/
theorem givenSinceTake_concat (calls : List Call) (gives : call.diagnostic? = some given) :
    givenSinceTake (calls ++ [call]) = givenSinceTake calls ++ [given] := by
  simp [givenSinceTake, ne_take_of_gives gives, gives]

/-- A log accounts for what it was given. -/
structure Accounts (log : DiagnosticLog) (budget : Budget) (given : List Diagnostic) : Prop where
  /-- It obeys the budget. -/
  budget_eq : log.budget = budget
  /-- It holds what it was given, as the budget says. -/
  entries_eq : log.entries = given.map budget.kept
  /-- It counts the errors. -/
  errors_eq : log.errors = log.entries.countP (·.severity = .error)
  /-- It counts the warnings. -/
  warnings_eq : log.warnings = log.entries.countP (·.severity = .warning)

namespace Accounts

variable {budget : Budget} {before : List Diagnostic}

/-- A log that nothing was given to accounts for that. -/
theorem new (budget : Budget) : Accounts { budget } budget [] := ⟨rfl, rfl, rfl, rfl⟩

/-- A log that records a diagnostic accounts for it, too. -/
theorem append (accounts : log.Accounts budget before) (given : Diagnostic) :
    (log.append given).Accounts budget (before ++ [given]) := by
  obtain ⟨rfl, entries, errors, warnings⟩ := accounts
  refine ⟨rfl, ?_, ?_, ?_⟩
  · rw [append_entries, entries, admitted_eq]
    simp
  · rw [append_entries, List.countP_append, ← errors]
    simp [DiagnosticLog.append, List.countP_singleton]
  · rw [append_entries, List.countP_append, ← warnings]
    simp [DiagnosticLog.append, List.countP_singleton]

end Accounts

/-- After any calls, a log accounts for what it was given since the diagnostics were taken. -/
theorem accounts_run (budget : Budget) (calls : List Call) :
    (run { budget } calls).Accounts budget (givenSinceTake calls) := by
  induction calls using List.reverseRecOn with
  | nil => exact .new budget
  | append_singleton calls call ih =>
      rw [run_concat]
      rcases eq_take_or_gives call with rfl | ⟨given, gives⟩
      · rw [givenSinceTake_take]
        -- Taking leaves a new log with the budget of the old one.
        show Accounts { budget := (run { budget } calls).budget } budget []
        rw [ih.budget_eq]
        exact .new budget
      · rw [givenSinceTake_concat calls gives, ask_of_diagnostic gives]
        exact ih.append given

/-- Nothing failed since the diagnostics were taken when they were taken last. -/
theorem not_failedSinceTake_take (budget : Budget) (calls : List Call) :
    ¬ FailedSinceTake budget (calls ++ [.take]) := by
  rintro ⟨answered, since, -⟩
  rw [answers_concat, List.rtakeWhile_concat_neg _ _ _ (by simp)] at since
  cases since

/-- Some call failed since the diagnostics were taken, if the last one or an earlier one did. -/
theorem failedSinceTake_concat (budget : Budget) (calls : List Call) (notTake : call ≠ .take) :
    FailedSinceTake budget (calls ++ [call]) ↔
      FailedSinceTake budget calls ∨ ((run { budget } calls).ask call).1 ≠ .ok () := by
  unfold FailedSinceTake
  rw [answers_concat, List.rtakeWhile_concat_pos _ _ _ (by simpa using notTake)]
  simp [or_and_right, exists_or]

/-- The budget is used up exactly when some call failed since the diagnostics were last taken. -/
theorem exhausted_run_iff (budget : Budget) (calls : List Call) :
    (run { budget } calls).exhausted = true ↔ FailedSinceTake budget calls := by
  induction calls using List.reverseRecOn with
  | nil => exact iff_of_false (not_exhausted_new budget) (by simp [FailedSinceTake, answers])
  | append_singleton calls call ih =>
      rw [run_concat]
      rcases eq_take_or_gives call with rfl | ⟨given, gives⟩
      · exact iff_of_false (not_exhausted_new _) (not_failedSinceTake_take budget calls)
      · rw [failedSinceTake_concat budget calls (ne_take_of_gives gives), ← ih,
          ask_of_diagnostic gives]
        -- A call fails when the budget is used up after it, and then it stays so.
        have fails : ((run { budget } calls).record given).1 ≠ .ok () ↔
            ((run { budget } calls).append given).exhausted = true := by
          rw [record_fst, exhausted_iff, append_budget]
          split <;> simp [*]
        rw [fails, record_snd]
        exact ⟨Or.inr, fun either => either.elim (exhausted_append · given) id⟩

/-- After any calls, failed ones included, a log holds what it was given since the diagnostics were
last taken, in order, with warnings as errors if the budget says so. Its counters are the numbers of
errors and warnings that it holds, and it hands out all that it holds. A call that records an error
fails when there is a limit and the count of errors, with this one, has reached it; it succeeds
otherwise. -/
theorem accounts_of_run (budget : Budget) (calls : List Call) :
    let log := run { budget } calls
    log.entries = (givenSinceTake calls).map budget.kept ∧
    log.errors = log.entries.countP (·.severity = .error) ∧
    log.warnings = log.entries.countP (·.severity = .warning) ∧
    log.take.1 = log.entries ∧
    ∀ call given, call.diagnostic? = some given → (budget.kept given).severity = .error →
      (log.ask call).1 =
        if 0 < budget.maxErrors ∧ budget.maxErrors ≤ (log.ask call).2.errors then
          .error ⟨budget.maxErrors⟩
        else .ok () := by
  intro log
  have accounts := accounts_run budget calls
  refine ⟨accounts.entries_eq, accounts.errors_eq, accounts.warnings_eq, rfl, ?_⟩
  intro call given gives _
  rw [ask_of_diagnostic gives, record_fst, accounts.budget_eq]
  rfl

/-- An error is recorded and taken. Then come an error, a note and a warning. -/
def errorNoteWarning : List Call :=
  [.recordError {} "taken", .take, .recordError {} "first", .record ⟨.note, none, "aside", {}, []⟩,
    .recordWarning {} "second"]

/-- When warnings are errors, a budget of two errors is used up then, and the next warning is
refused and counted. -/
theorem accounts_of_errorNoteWarning :
    let budget : Budget := { maxErrors := 2, warningsAsErrors := true }
    let log := run { budget } errorNoteWarning
    let third : Diagnostic := { severity := .warning, message := "third", location := {} }
    log.entries.map (·.severity) = [.error, .note, .error] ∧ log.errors = 2 ∧
      (budget.kept third).severity = .error ∧
      (log.ask (.recordWarning {} "third")).1 = .error ⟨2⟩ ∧
      (log.ask (.recordWarning {} "third")).2.errors = 3 := by
  intro budget log third
  have isError : (budget.kept third).severity = .error := rfl
  obtain ⟨-, -, -, -, fails⟩ := accounts_of_run budget errorNoteWarning
  exact ⟨rfl, rfl, isError, fails (.recordWarning {} "third") third rfl isError, rfl⟩

/-- A diagnostic that is not kept as an error is accepted as long as no call failed since the
diagnostics were last taken, that is, as long as the errors counted have not used the budget up.
After that it is refused, as every diagnostic is. It never counts as an error. -/
theorem nonErrors_of_run (budget : Budget) (calls : List Call) :
    let log := run { budget } calls
    ∀ call given, call.diagnostic? = some given → (budget.kept given).severity ≠ .error →
      ((log.ask call).1 = .ok () ↔ ¬ FailedSinceTake budget calls) ∧
      ((log.ask call).1 = .ok () ↔ budget.maxErrors = 0 ∨ log.errors < budget.maxErrors) ∧
      (log.ask call).2.errors = log.errors := by
  intro log call given gives noError
  have budget_eq : log.budget = budget := (accounts_run budget calls).budget_eq
  have errors_eq : (log.append given).errors = log.errors :=
    errors_append_of_ne (budget_eq ▸ noError)
  have failed : FailedSinceTake budget calls ↔
      0 < budget.maxErrors ∧ budget.maxErrors ≤ log.errors := by
    rw [← exhausted_run_iff, exhausted_iff, budget_eq]
  have succeeds : (log.ask call).1 = .ok () ↔ ¬ FailedSinceTake budget calls := by
    rw [ask_of_diagnostic gives, record_fst, errors_eq, budget_eq, failed]
    split <;> simp [*]
  refine ⟨succeeds, ?_, by rw [ask_of_diagnostic gives, record_snd, errors_eq]⟩
  rw [succeeds, failed]
  omega

/-- With one error of two, a warning that is no error is accepted. -/
theorem warning_of_firstError :
    let budget : Budget := { maxErrors := 2 }
    let log := run { budget } [.recordError {} "first"]
    let careful : Diagnostic := { severity := .warning, message := "careful", location := {} }
    (budget.kept careful).severity ≠ .error ∧
      (log.ask (.recordWarning {} "careful")).1 = .ok () := by
  intro budget log careful
  have noError : (budget.kept careful).severity ≠ .error := by decide
  obtain ⟨-, succeeds, -⟩ := nonErrors_of_run budget [.recordError {} "first"]
    (.recordWarning {} "careful") careful rfl noError
  exact ⟨noError, succeeds.2 (by decide)⟩

/-- Once an error has used the budget up, a warning that is no error is refused, as is a note. -/
theorem nonErrors_after_lastError :
    let budget : Budget := { maxErrors := 1 }
    let log := run { budget } [.recordError {} "last"]
    budget.warningsAsErrors = false ∧
      (log.ask (.recordWarning {} "careful")).1 = .error ⟨1⟩ ∧
      (log.ask (.record ⟨.note, none, "aside", {}, []⟩)).1 = .error ⟨1⟩ := by
  decide

end DiagnosticLog

end ScopeResolution
