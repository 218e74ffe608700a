import ScopeResolution.Toml.Moment
import ScopeResolution.Toml.Value

/-! # TOML scalars

The reading of keys, strings, numbers, truth values and moments. A reader answers what it read and
the rest of the text, or none when the text does not start with what it reads. -/

namespace ScopeResolution.Toml

/-- Whether a character is a blank inside a line. -/
def isBlank (char : Char) : Bool := char = ' ' || char = '\t'

/-- Whether a character may stand in comments and strings: no control character but the tab. -/
def isVisible (char : Char) : Bool :=
  char = '\t' || (' ' ≤ char && char ≠ '\x7f')

/-- The text after the blanks at its start. -/
def skipBlanks (text : List Char) : List Char := text.dropWhile isBlank

/-- The text after the line break at its start. -/
def lineBreak? : List Char → Option (List Char)
  | '\n' :: rest => some rest
  | '\r' :: '\n' :: rest => some rest
  | _ => none

/-- The text after the blanks and the comment at its start. -/
def skipComment (text : List Char) : List Char :=
  match skipBlanks text with
  | '#' :: rest => rest.dropWhile isVisible
  | rest => rest

/-- The text after the line that ends here, blanks and comment included; none when something else
stands before the end of the line. -/
def endLine? (text : List Char) : Option (List Char) :=
  match skipComment text with
  | [] => some []
  | rest => lineBreak? rest

/-- The text after blanks, comments and line breaks; `steps` is the number of lines that may be
skipped. -/
def skipLines : (steps : Nat) → List Char → List Char
  | 0, text => text
  | steps + 1, text =>
    match lineBreak? (skipComment text) with
    | some rest => skipLines steps rest
    | none => skipComment text

/-- The character with the code point that hexadecimal digits write. -/
def codePoint? (digits : List Char) : Option Char := do
  let point ← digits? 16 digits
  if point.isValidChar then some (Char.ofNat point) else none

/-- The character that a letter after a backslash stands for. -/
def escaped? : Char → Option Char
  | 'b' => some '\x08'
  | 't' => some '\t'
  | 'n' => some '\n'
  | 'f' => some '\x0c'
  | 'r' => some '\r'
  | '"' => some '"'
  | '\\' => some '\\'
  | _ => none

/-- Reads an escape sequence behind its backslash. -/
def readEscape : List Char → Option (Char × List Char)
  | 'u' :: a :: b :: c :: d :: rest => (codePoint? [a, b, c, d]).map (·, rest)
  | 'U' :: a :: b :: c :: d :: e :: f :: g :: h :: rest =>
    (codePoint? [a, b, c, d, e, f, g, h]).map (·, rest)
  | char :: rest => (escaped? char).map (·, rest)
  | [] => none

/-- Reads the rest of a string in double quotes; `steps` is the number of characters that may be
read. -/
def readBasic : (steps : Nat) → (read : List Char) → List Char → Option (String × List Char)
  | _, read, '"' :: rest => some (String.ofList read.reverse, rest)
  | steps + 1, read, '\\' :: rest => do
    let (char, rest) ← readEscape rest
    readBasic steps (char :: read) rest
  | steps + 1, read, char :: rest =>
    if isVisible char then readBasic steps (char :: read) rest else none
  | _, _, _ => none

/-- Reads the rest of a string in single quotes. -/
def readLiteral : (read : List Char) → List Char → Option (String × List Char)
  | read, '\'' :: rest => some (String.ofList read.reverse, rest)
  | read, char :: rest => if isVisible char then readLiteral (char :: read) rest else none
  | _, [] => none

/-- The text after the blanks and line breaks at its start. -/
def skipBreaks : List Char → List Char
  | '\n' :: rest => skipBreaks rest
  | '\r' :: '\n' :: rest => skipBreaks rest
  | char :: rest => if isBlank char then skipBreaks rest else char :: rest
  | [] => []

/-- The text after blanks and line breaks, when it starts with blanks and a line break. -/
def continuation? (text : List Char) : Option (List Char) :=
  (lineBreak? (skipBlanks text)).map skipBreaks

/-- Reads the rest of a string in triple quotes; `quote` is the quote, and `escapes` says whether
backslashes count. Up to two quotes may stand right before the closing ones. -/
def readLong (quote : Char) (escapes : Bool) :
    (steps : Nat) → (read : List Char) → List Char → Option (String × List Char)
  | 0, _, _ => none
  | steps + 1, read, text =>
    match (text.takeWhile (· == quote)).length with
    | 0 =>
      match text with
      | [] => none
      | '\\' :: rest =>
        if escapes then
          match continuation? rest with
          | some rest => readLong quote escapes steps read rest
          | none => do
            let (char, rest) ← readEscape rest
            readLong quote escapes steps (char :: read) rest
        else readLong quote escapes steps ('\\' :: read) rest
      | char :: rest =>
        match lineBreak? text with
        | some rest => readLong quote escapes steps ('\n' :: read) rest
        | none => if isVisible char then readLong quote escapes steps (char :: read) rest else none
    | count =>
      if count < 3 then
        readLong quote escapes steps (List.replicate count quote ++ read) (text.drop count)
      else
        let kept := min (count - 3) 2
        some (String.ofList (List.replicate kept quote ++ read).reverse, text.drop (kept + 3))

/-- Reads a string of any form. -/
def readString : List Char → Option (String × List Char)
  | '"' :: '"' :: '"' :: rest =>
    readLong '"' true (rest.length + 1) [] ((lineBreak? rest).getD rest)
  | '\'' :: '\'' :: '\'' :: rest =>
    readLong '\'' false (rest.length + 1) [] ((lineBreak? rest).getD rest)
  | '"' :: rest => readBasic rest.length [] rest
  | '\'' :: rest => readLiteral [] rest
  | _ => none

/-- Whether a character may stand in a key without quotes. -/
def isBare (char : Char) : Bool := char.isAlphanum || char = '_' || char = '-'

/-- Reads one part of a key. -/
def readKeyPart (text : List Char) : Option (String × List Char) :=
  match text with
  | '"' :: rest => readBasic rest.length [] rest
  | '\'' :: rest => readLiteral [] rest
  | _ =>
    match text.takeWhile isBare with
    | [] => none
    | key => some (String.ofList key, text.dropWhile isBare)

/-- One more than the number of levels to which values may be nested, and than the number of parts
that a key may have. -/
def nestingLimit : Nat := 80

/-- Reads a key of fewer than `limit` parts with its dots. -/
def readParts : (limit : Nat) → List Char → Option (List String × List Char)
  | 0, _ | 1, _ => none
  | limit + 2, text => do
    let (key, rest) ← readKeyPart (skipBlanks text)
    match skipBlanks rest with
    | '.' :: rest => do
      let (keys, rest) ← readParts (limit + 1) rest
      some (key :: keys, rest)
    | rest => some ([key], rest)

/-- Reads a key with its dots. -/
def readKey (text : List Char) : Option (List String × List Char) := readParts nestingLimit text

/-- Whether a character may stand in a number or a moment. -/
def isNumeric (char : Char) : Bool :=
  char.isAlphanum || char = '_' || char = '+' || char = '-' || char = '.' || char = ':'

/-- Reads a truth value, a number or a moment. A blank may stand between a date and a time. -/
def readPlain (text : List Char) : Option (Value × List Char) :=
  let word := text.takeWhile isNumeric
  let rest := text.drop word.length
  let written := String.ofList word
  if word = "true".toList then some (.boolean true, rest)
  else if word = "false".toList then some (.boolean false, rest)
  else
    match integer? word with
    | some value => some (.integer value, rest)
    | none =>
      if isFloat word then some (.float written, rest)
      else if isMoment word then
        match afterDate? word, rest with
        | some [], ' ' :: after =>
          let time := after.takeWhile isNumeric
          if isZonedTime time then
            some (.moment (written ++ " " ++ String.ofList time), after.drop time.length)
          else some (.moment written, rest)
        | _, _ => some (.moment written, rest)
      else none

end ScopeResolution.Toml
