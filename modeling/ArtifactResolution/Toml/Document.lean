import ArtifactResolution.Toml.Entry
import ArtifactResolution.Toml.Scalar

namespace ArtifactResolution.Toml
set_option autoImplicit false

open Text Text.Reader

/-- The depth that values and keys have to stay below. -/
def maxDepth : Nat := 80

def isBareChar (c : Char) : Bool := c.isAlphanum || c = '-' || c = '_'

def blanks : Reader Unit := (fun _ => ()) <$> takeWhile isBlank

def spaced {α : Type} (r : Reader α) : Reader α := do
  blanks
  let a ← r
  blanks
  return a

def simpleKey : Reader String :=
  String.ofList <$> takeSome isBareChar <|> quotedText <|> literalText

/-- A key is a path and a last key. -/
structure Key where
  path : List String
  last : String

def key : Reader Key := do
  let keys ← separated (spaced simpleKey) (char '.')
  if keys.length < maxDepth then return ⟨keys.dropLast, keys.getLastD ""⟩ else failure

def comment : Reader Unit := do
  char '#'
  let _ ← takeWhile isPlain

/-- What follows whitespace, line breaks and comments, given whether a comment has begun. -/
def skipGap : Bool → List Char → List Char
  | _, '\r' :: '\n' :: cs => skipGap false cs
  | inComment, c :: cs =>
    if c = '\n' then skipGap false cs
    else if if inComment then isPlain c else isBlank c then skipGap inComment cs
    else if c = '#' then skipGap true cs
    else c :: cs
  | _, [] => []

/-- Takes what may stand between the parts of an array. -/
def gap : Reader Unit := modify (skipGap false)

def binding (value : Reader RawValue) : Reader (Key × RawValue) := do
  let k ← key
  char '='
  let v ← spaced value
  return (k, v)

/-- Takes a table on one line, whose bindings must agree as those of a document do. -/
def inlineTable (value : Reader RawValue) : Reader RawValue := do
  char '{'
  blanks
  let bindings ← (fun _ => []) <$> char '}' <|> do
    let bindings ← separated (binding value) (char ',')
    char '}'
    return bindings
  let add (es : Entries) (b : Key × RawValue) : Option Entries :=
    assign b.1.path b.1.last b.2 es
  match bindings.foldlM add [] with
  | some es => return .ofEntries (rawEntries es)
  | none => failure

def array (value : Reader RawValue) : Reader RawValue := do
  char '['
  gap
  let item : Reader RawValue := do
    let v ← value
    gap
    return v
  let separator : Reader Unit := do
    char ','
    gap
  let items ← collected item separator (char ']')
  return .list items

/-- Takes a value; the number bounds its depth. -/
def value : Nat → Reader RawValue
  | 0 => failure
  | 1 => simple
  | depth + 2 => simple <|> array (value (depth + 1)) <|> inlineTable (value (depth + 1))
where
  simple : Reader RawValue := RawValue.text <$> text <|> scalar

inductive Statement where
  | nothing
  | header (k : Key)
  | arrayHeader (k : Key)
  | binding (k : Key) (v : RawValue)

def header : Reader Statement :=
  (do
    chars ['[', '[']
    let k ← key
    chars [']', ']']
    return .arrayHeader k) <|>
  (do
    char '['
    let k ← key
    char ']'
    return .header k)

def statement : Reader Statement :=
  header <|> (fun b => .binding b.1 b.2) <$> binding (value maxDepth) <|> pure .nothing

def line : Reader Statement := do
  let s ← spaced statement
  let _ ← optional comment
  newline <|> done
  return s

/-- The tables built so far, and the table that the bindings of the next lines go to. -/
structure State where
  entries : Entries := []
  current : List String := []

namespace State

def apply (st : State) : Statement → Option State
  | .nothing => some st
  | .header k => do
    return { entries := ← openTable k.path k.last st.entries, current := k.path ++ [k.last] }
  | .arrayHeader k => do
    return { entries := ← pushTable k.path k.last st.entries, current := k.path ++ [k.last] }
  | .binding k v => do
    let add (_ : Origin) (es : Entries) : Option Entries := assign k.path k.last v es
    return { st with entries := ← change .parent add st.current .header st.entries }

end State

/-- The value of a TOML document, version 1.0; a byte order mark may stand in front. -/
def parse? (document : String) : Option RawValue := do
  let cs := document.toList
  let statements ← whole? (upTo done line) (if cs.head? = some '\ufeff' then cs.tail else cs)
  let last ← statements.foldlM State.apply {}
  return .ofEntries (rawEntries last.entries)

end ArtifactResolution.Toml
