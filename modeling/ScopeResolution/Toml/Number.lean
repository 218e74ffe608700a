/-! # TOML numbers

The texts that write integers and floating point numbers, with underscores between their digits.
Nothing is made of the value of a floating point number but whether it is too large for a double, so
it is kept as its digits and a power of ten and never rounded. -/

namespace ScopeResolution.Toml

/-- The value of a digit of a base up to sixteen. -/
def digit? (base : Nat) (char : Char) : Option Nat :=
  let value? :=
    if '0' ≤ char && char ≤ '9' then some (char.toNat - '0'.toNat)
    else if 'a' ≤ char && char ≤ 'f' then some (char.toNat - 'a'.toNat + 10)
    else if 'A' ≤ char && char ≤ 'F' then some (char.toNat - 'A'.toNat + 10)
    else none
  value?.filter (· < base)

/-- The number that digits of a base write. -/
def digits? (base : Nat) (digits : List Char) : Option Nat :=
  digits.foldlM (fun value char => (digit? base char).map (value * base + ·)) 0

/-- Whether digits of a base are written with at most one underscore between neighbours and none at
the ends. -/
def isGrouped (base : Nat) : List Char → Bool
  | [] => false
  | [last] => (digit? base last).isSome
  | first :: '_' :: rest => (digit? base first).isSome && isGrouped base rest
  | first :: rest => (digit? base first).isSome && isGrouped base rest

/-- The number that grouped digits write. -/
def grouped? (base : Nat) (text : List Char) : Option Nat :=
  if isGrouped base text then digits? base (text.filter (· ≠ '_')) else none

/-- The sign of a number with the text after it. -/
def splitSign : List Char → Bool × List Char
  | '-' :: rest => (true, rest)
  | '+' :: rest => (false, rest)
  | text => (false, text)

/-- Whether a text is an integer in decimal digits, without a sign and without needless zeros. -/
def isDecimal : List Char → Bool
  | ['0'] => true
  | '0' :: _ => false
  | text => isGrouped 10 text

/-- The number that grouped decimal digits write, with a sign before them or without. -/
def signed? (text : List Char) : Option Int :=
  let (negative, digits) := splitSign text
  (grouped? 10 digits).map fun value => if negative then -(value : Int) else value

/-- The integer of at most 64 bits that a text writes. -/
def integer? (text : List Char) : Option Int :=
  let value? : Option Int :=
    match text with
    | '0' :: 'x' :: digits => (grouped? 16 digits).map Int.ofNat
    | '0' :: 'o' :: digits => (grouped? 8 digits).map Int.ofNat
    | '0' :: 'b' :: digits => (grouped? 2 digits).map Int.ofNat
    | _ => if isDecimal (splitSign text).2 then signed? text else none
  value?.filter fun value => -(Int.pow 2 63) ≤ value && value < Int.pow 2 63

/-- Whether a character is the letter of an exponent. -/
def isExponentLetter (char : Char) : Bool := char = 'e' || char = 'E'

/-- The number that a text without a sign writes with a fraction, an exponent or both: the integer
that its digits write without the point, and the power of ten that it is multiplied by. -/
def scientific? (unsigned : List Char) : Option (Nat × Int) := do
  let whole := unsigned.takeWhile fun char => char ≠ '.' && !isExponentLetter char
  guard (isDecimal whole)
  match unsigned.drop whole.length with
  | '.' :: rest =>
    let fraction := rest.takeWhile fun char => !isExponentLetter char
    guard (isGrouped 10 fraction)
    let digits ← digits? 10 ((whole ++ fraction).filter (· ≠ '_'))
    let places := (fraction.filter (· ≠ '_')).length
    let exponent ←
      match rest.drop fraction.length with
      | [] => some 0
      | _ :: exponent => signed? exponent
    some (digits, exponent - places)
  | _ :: exponent => do
    let digits ← grouped? 10 whole
    let exponent ← signed? exponent
    some (digits, exponent)
  | [] => none

/-- The least number that rounds to infinity in double precision: halfway between the greatest
double and the power of two after it. -/
def doubleBound : Nat := Nat.pow 2 1024 - Nat.pow 2 970

/-- Whether digits times a power of ten are too large for a double. The bound has 309 digits, so that
only numbers of that length have to be compared with it. -/
def exceedsDoubles (digits : Nat) (exponent : Int) : Bool :=
  let length : Int := (Nat.toDigits 10 digits).length + exponent
  if digits = 0 || length < 309 then false
  else if 309 < length then true
  else doubleBound * Nat.pow 10 (-exponent).toNat ≤ digits * Nat.pow 10 exponent.toNat

/-- Whether a text is a floating point number. A number that is too large for a double is none, but
with a minus before it it counts as negative infinity. -/
def isFloat (text : List Char) : Bool :=
  let (negative, unsigned) := splitSign text
  if unsigned = "inf".toList || unsigned = "nan".toList then true
  else
    (scientific? unsigned).any fun (digits, exponent) =>
      negative || !exceedsDoubles digits exponent

end ScopeResolution.Toml
