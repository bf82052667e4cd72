import ArtifactResolution.Text.Visible

namespace ArtifactResolution.Text
set_option autoImplicit false

def escapeCode (c : Char) : String :=
  "\\u\x7b" ++ String.ofList (Nat.toDigits 16 c.toNat) ++ "\x7d"

def escape (c : Char) : String :=
  match c with
  | '\x00' => "\\0"
  | '\t' => "\\t"
  | '\r' => "\\r"
  | '\n' => "\\n"
  | '"' => "\\\""
  | '\\' => "\\\\"
  | c => if isVisible c then c.toString else escapeCode c

def quoted (text : String) : String := "\"" ++ String.join (text.toList.map escape) ++ "\""

end ArtifactResolution.Text
