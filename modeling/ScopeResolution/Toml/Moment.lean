import ScopeResolution.Toml.Number

/-! # TOML moments

The texts that write dates, times of day, or both with the offset of a time zone. -/

namespace ScopeResolution.Toml

/-- The text after the characters that must stand at its start. -/
def after? (start text : List Char) : Option (List Char) :=
  if start.isPrefixOf text then some (text.drop start.length) else none

/-- The number that exactly so many decimal digits at the start of a text write. -/
def fixedDigits? (count : Nat) (text : List Char) : Option (Nat × List Char) :=
  let digits := text.take count
  if digits.length = count then (digits? 10 digits).map (·, text.drop count) else none

/-- The number of days of a month. -/
def daysOfMonth (year month : Nat) : Nat :=
  if month = 2 then
    if year % 400 = 0 || (year % 4 = 0 && year % 100 ≠ 0) then 29 else 28
  else if month ∈ [4, 6, 9, 11] then 30
  else 31

/-- The text after the date at its start. -/
def afterDate? (text : List Char) : Option (List Char) := do
  let (year, text) ← fixedDigits? 4 text
  let text ← after? ['-'] text
  let (month, text) ← fixedDigits? 2 text
  let text ← after? ['-'] text
  let (day, text) ← fixedDigits? 2 text
  if 1 ≤ month && month ≤ 12 && 1 ≤ day && day ≤ daysOfMonth year month then some text else none

/-- The text after the fraction of a second at its start. -/
def afterFraction? : List Char → Option (List Char)
  | '.' :: rest =>
    if (rest.takeWhile Char.isDigit).isEmpty then none else some (rest.dropWhile Char.isDigit)
  | text => some text

/-- The text after the time of day at its start. -/
def afterTime? (text : List Char) : Option (List Char) := do
  let (hour, text) ← fixedDigits? 2 text
  let text ← after? [':'] text
  let (minute, text) ← fixedDigits? 2 text
  let text ← after? [':'] text
  let (second, text) ← fixedDigits? 2 text
  if hour ≤ 23 && minute ≤ 59 && second ≤ 60 then afterFraction? text else none

/-- Whether a text is nothing, or the offset of a time zone. -/
def isOffset (text : List Char) : Bool :=
  match text with
  | [] => true
  | ['Z'] | ['z'] => true
  | sign :: rest =>
    (sign = '+' || sign = '-') &&
      match fixedDigits? 2 rest with
      | some (hour, ':' :: rest) =>
        match fixedDigits? 2 rest with
        | some (minute, []) => hour ≤ 23 && minute ≤ 59
        | _ => false
      | _ => false

/-- Whether a text is a time of day with an offset or without. -/
def isZonedTime (text : List Char) : Bool := (afterTime? text).any isOffset

/-- Whether a text is a date, a time of day, or a date and a time with the letter between them. -/
def isMoment (text : List Char) : Bool :=
  match afterDate? text with
  | some [] => true
  | some (letter :: time) => (letter = 'T' || letter = 't') && isZonedTime time
  | none => (afterTime? text).any (·.isEmpty)

end ScopeResolution.Toml
