import ArtifactResolution.Text.Numeral
import ArtifactResolution.Text.Reader

namespace ArtifactResolution.Text
set_option autoImplicit false

open Reader

/-- Whether a character may stand for itself: no control, a tab apart. -/
def isPlain (c : Char) : Bool := c = '\t' || 0x20 ≤ c.toNat && c.toNat ≠ 0x7F

/-- Takes a number of exactly the given count of hexadecimal digits. -/
def hexNumber : Nat → Nat → Reader Nat
  | 0, n => pure n
  | k + 1, n => do
    let digit ← satisfy fun c => (hexDigit? c).isSome
    hexNumber k (16 * n + (hexDigit? digit).getD 0)

/-- Takes a code point in hexadecimal digits; it must be that of a character. -/
def codePoint (digits : Nat) : Reader Char := do
  let n ← hexNumber digits 0
  if n.isValidChar then return Char.ofNat n else failure

def escaped : Reader Char := do
  char '\\'
  let c ← satisfy fun _ => true
  match c with
  | '"' => return '"'
  | '\\' => return '\\'
  | 'b' => return '\x08'
  | 'f' => return '\x0c'
  | 'n' => return '\n'
  | 'r' => return '\r'
  | 't' => return '\t'
  | 'u' => codePoint 4
  | 'U' => codePoint 8
  | _ => failure

/-- Whether a character stands for itself between quotation marks. -/
def isUnescaped (c : Char) : Bool := isPlain c && c ≠ '"' && c ≠ '\\'

def quotedRest : Reader (List Char) := upTo (char '"') (escaped <|> satisfy isUnescaped)

def quotedText : Reader String := do
  char '"'
  let cs ← quotedRest
  return String.ofList cs

end ArtifactResolution.Text
