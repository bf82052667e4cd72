import ArtifactResolution.Environment
import ArtifactResolution.Settings.Value
import ArtifactResolution.Text.Escaped

namespace ArtifactResolution.Variable
set_option autoImplicit false

open Text Text.Reader

def isBlank (c : Char) : Bool := c = ' ' || c = '\t' || c = '\n' || c = '\x0c' || c = '\r'

def isSeparator (c : Char) : Bool := c = ',' || c = '{' || c = '}' || c = '[' || c = ']'

def isKeyChar (c : Char) : Bool := c.isAlphanum || c = '_' || c = '-'

/-- A number with a point, with digits on at least one side of it, and perhaps an exponent. -/
def float? (cs : List Char) : Option Binary64 := do
  let (negative, body) := splitSign cs
  let (mantissa, exponent) := body.span fun c => c ≠ 'e' && c ≠ 'E'
  let (whole, fraction) := mantissa.span (· ≠ '.')
  let (negativeExponent, digits) := splitSign exponent.tail
  let isNumber := !fraction.isEmpty && !(whole ++ fraction.tail).isEmpty &&
    (whole ++ fraction.tail).all Char.isDigit &&
    (exponent.isEmpty || !digits.isEmpty && digits.all Char.isDigit)
  if isNumber then
    return binary64OfDigits negative whole fraction.tail
      (signedOf negativeExponent (natOfDigits 10 digits))
  else none

/-- An integer of 64 bits; only one with a minus sign has a sign. -/
def integer? (cs : List Char) : Option RawValue := do
  let (negative, digits) := splitSign cs
  if digits.isEmpty ∨ !digits.all Char.isDigit then none
  let n := natOfDigits 10 digits
  if negative then
    if Int64.minValue.toInt ≤ -n then return .signed (-n) else none
  else if n < UInt64.size then return .unsigned n
  else none

/-- The value of a text without separators. -/
def bare (cs : List Char) : RawValue :=
  match float? (trim cs), integer? (trim cs) with
  | some x, _ => .float x
  | none, some n => n
  | none, none => .text (String.ofList (trim cs))

def blanks : Reader Unit := (fun _ => ()) <$> takeWhile isBlank

def spaced {α : Type} (r : Reader α) : Reader α := do
  blanks
  let a ← r
  blanks
  return a

/-- Takes a single character between apostrophes. -/
def singleChar : Reader RawValue := do
  char '\x27'
  let c ← satisfy fun _ => true
  char '\x27'
  return .char c

def list (value : Reader RawValue) : Reader RawValue := do
  char '['
  return .list (← collected value (char ',') (char ']'))

/-- As much of the beginning of a text as takes up at most the given number of bytes. -/
def fitting : Nat → List Char → List Char
  | _, [] => []
  | bytes, c :: cs => if c.utf8Size ≤ bytes then c :: fitting (bytes - c.utf8Size) cs else []

/-- Takes a text between quotation marks. If a character in it is escaped, what stands before the
first such character is cut to as many bytes as it has characters. -/
def quotedValue : Reader String := do
  char '"'
  let start ← takeWhile isUnescaped
  let rest ← quotedRest
  return String.ofList (if rest.isEmpty then start else fitting start.length start ++ rest)

def key : Reader String
  | cs@('"' :: _) => quotedValue cs
  | cs => (String.ofList <$> takeSome isKeyChar) cs

def entry (value : Reader RawValue) : Reader (String × RawValue) := do
  let k ← spaced key
  char '='
  let v ← spaced value
  return (k, v)

def table (value : Reader RawValue) : Reader RawValue := do
  char '{'
  return .ofEntries (← collected (entry value) (char ',') (char '}'))

/-- Takes a value whose kind is told by its first character. -/
def marked (value : Reader RawValue) : Reader RawValue
  | cs@('{' :: _) => table value cs
  | cs@('[' :: _) => list value cs
  | cs@('"' :: _) => (RawValue.text <$> quotedValue) cs
  | cs@('\x27' :: _) => singleChar cs
  | cs => (bare <$> takeWhile fun c => !isSeparator c) cs

def unspaced (value : Reader RawValue) : Reader RawValue :=
  (fun _ => RawValue.bool true) <$> chars "true".toList <|>
  (fun _ => RawValue.bool false) <$> chars "false".toList <|> marked value

/-- Takes a value with blanks around it; the number bounds its depth. -/
def value : Nat → Reader RawValue
  | 0 => failure
  | depth + 1 => spaced (unspaced (value depth))

/-- The value of a variable's text; one that cannot be read as a whole stands for itself. -/
def read (text : String) : RawValue :=
  (whole? (value (text.length + 1)) text.toList).getD (.text text)

end ArtifactResolution.Variable
