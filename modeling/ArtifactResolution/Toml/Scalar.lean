import ArtifactResolution.Settings.Value
import ArtifactResolution.Text.Escaped
import ArtifactResolution.Text.Numeral

namespace ArtifactResolution.Toml
set_option autoImplicit false

open Text Text.Reader

/-- The digits of a number, in which single underscores may stand between digits. -/
def digits? (isDigit : Char → Bool) (cs : List Char) : Option (List Char) :=
  let groups := cs.splitOn '_'
  if groups.all fun g => !g.isEmpty && g.all isDigit then some groups.flatten else none

/-- The digits of a decimal number without leading zeros. -/
def wholeDigits? (cs : List Char) : Option (List Char) :=
  if cs.head? = some '0' ∧ cs ≠ ['0'] then none else digits? Char.isDigit cs

/-- Integers have 64 bits and a sign. -/
def ofInteger? (n : Int) : Option RawValue :=
  if Int64.minValue.toInt ≤ n ∧ n ≤ Int64.maxValue.toInt then some (.signed n) else none

def integer? (cs : List Char) : Option RawValue :=
  match cs with
  | '0' :: 'x' :: cs => do
    ofInteger? (natOfDigits 16 (← digits? (fun c => (hexDigit? c).isSome) cs))
  | '0' :: 'o' :: cs => do
    ofInteger? (natOfDigits 8 (← digits? (fun c => '0' ≤ c && c ≤ '7') cs))
  | '0' :: 'b' :: cs => do
    ofInteger? (natOfDigits 2 (← digits? (fun c => c = '0' || c = '1') cs))
  | cs => do
    let (negative, body) := splitSign cs
    ofInteger? (signedOf negative (natOfDigits 10 (← wholeDigits? body)))

/-- A floating-point number has a fraction, an exponent or both. A number too great for the format
is refused; one too small to be negative is the negative infinity. -/
def float? (cs : List Char) : Option RawValue := do
  let (negative, body) := splitSign cs
  if body = "inf".toList then return .float (.infinite negative)
  if body = "nan".toList then return .float .nan
  let (mantissa, exponent) := body.span fun c => c ≠ 'e' && c ≠ 'E'
  let (whole, fraction) := mantissa.span (· ≠ '.')
  if exponent.isEmpty ∧ fraction.isEmpty then none
  let wholeDigits ← wholeDigits? whole
  let fractionDigits ← if fraction.isEmpty then pure [] else digits? Char.isDigit fraction.tail
  let (negativeExponent, exponentBody) := splitSign exponent.tail
  let exponentDigits ←
    if exponent.isEmpty then pure [] else digits? Char.isDigit exponentBody
  let x := binary64OfDigits negative wholeDigits fractionDigits
    (signedOf negativeExponent (natOfDigits 10 exponentDigits))
  if x = .infinite false then none else return .float x

/-- Takes a number of the given count of digits that lies between two bounds. -/
def field (count low high : Nat) : Reader Nat := do
  let ds ← (List.replicate count ()).mapM fun _ => satisfy Char.isDigit
  let n := natOfDigits 10 ds
  if low ≤ n ∧ n ≤ high then return n else failure

def daysInMonth (year month : Nat) : Nat :=
  if month = 2 then
    if year % 4 = 0 ∧ (year % 100 ≠ 0 ∨ year % 400 = 0) then 29 else 28
  else if month = 4 ∨ month = 6 ∨ month = 9 ∨ month = 11 then 30
  else 31

def date : Reader Unit := do
  let year ← field 4 0 9999
  char '-'
  let month ← field 2 1 12
  char '-'
  let _ ← field 2 1 (daysInMonth year month)

/-- A minute may have a leap second. -/
def time : Reader Unit := do
  let _ ← field 2 0 23
  char ':'
  let _ ← field 2 0 59
  char ':'
  let _ ← field 2 0 60
  let _ ← optional do
    char '.'
    takeSome Char.isDigit

def offset : Reader Unit := do
  let c ← satisfy fun c => c = 'Z' || c = 'z' || c = '+' || c = '-'
  if c = '+' ∨ c = '-' then
    let _ ← field 2 0 23
    char ':'
    let _ ← field 2 0 59

/-- Takes a date, a time of day, or both with an offset perhaps. -/
def moment : Reader Unit :=
  time <|> do
    date
    let _ ← optional do
      let _ ← satisfy fun c => c = 'T' || c = 't' || c = ' '
      time
      optional offset

/-- The key of the only entry of the table that stands for a moment. -/
def momentKey : String := "$__toml_private_datetime"

def isScalarChar (c : Char) : Bool :=
  c.isAlphanum || c = '+' || c = '-' || c = '.' || c = '_' || c = ':'

def scalar? (cs : List Char) : Option RawValue :=
  if cs = "true".toList then some (.bool true)
  else if cs = "false".toList then some (.bool false)
  else integer? cs <|> float? cs

/-- Takes a moment, with a space between date and time perhaps, or a run of characters that is a
truth value or a number. -/
def scalar : Reader RawValue :=
  momentValue <|> do
    let cs ← takeSome isScalarChar
    match scalar? cs with
    | some v => return v
    | none => failure
where
  momentValue : Reader RawValue := fun cs => do
    let ((), rest) ← moment cs
    if rest.head?.any isScalarChar then none
    return (.table [(momentKey, .text (String.ofList (cs.take (cs.length - rest.length))))], rest)

def newline : Reader Unit := char '\n' <|> chars ['\r', '\n']

def isBlank (c : Char) : Bool := c = ' ' || c = '\t'

def skipSpace : List Char → List Char
  | '\r' :: '\n' :: cs => skipSpace cs
  | c :: cs => if c = '\n' || isBlank c then skipSpace cs else c :: cs
  | [] => []

/-- A backslash at the end of a line joins it to the next one that is not blank. -/
def lineJoin : Reader Unit := do
  char '\\'
  let _ ← takeWhile isBlank
  newline
  modify skipSpace

/-- Takes a part of a text of several lines, in which a backslash may have to escape. -/
def piece (escapes : Bool) : Reader (List Char) :=
  (fun _ => ['\n']) <$> newline <|>
  (fun c => [c]) <$> satisfy (fun c => isPlain c && !(escapes && c = '\\')) <|>
  if escapes then (fun _ => []) <$> lineJoin <|> (fun c => [c]) <$> escaped else failure

/-- Takes the rest of a text of several lines, up to three of its quotation marks; one or two more
belong to the text. -/
def multilineRest (mark : Char) (escapes : Bool) : Nat → Reader (List Char)
  | 0 => failure
  | n + 1 => do
    match ← optional (chars [mark, mark, mark]) with
    | some () =>
      let more ← takeWhile (· = mark)
      if more.length ≤ 2 then return more else failure
    | none => return (← piece escapes) ++ (← multilineRest mark escapes n)

/-- Takes a text of several lines. A line break behind the opening marks is left out. -/
def multilineText (mark : Char) (escapes : Bool) : Reader String := do
  chars [mark, mark, mark]
  let _ ← optional newline
  let cs ← fun cs => multilineRest mark escapes (cs.length + 1) cs
  return String.ofList cs

/-- Takes a text on one line between apostrophes, in which nothing is escaped. -/
def literalText : Reader String := do
  char '\x27'
  let cs ← takeWhile fun c => isPlain c && c ≠ '\x27'
  char '\x27'
  return String.ofList cs

def text : Reader String :=
  multilineText '"' true <|> multilineText '\x27' false <|> quotedText <|> literalText

end ArtifactResolution.Toml
