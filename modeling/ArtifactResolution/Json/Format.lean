import ArtifactResolution.Json
import ArtifactResolution.Text.Alternatives

namespace ArtifactResolution
set_option autoImplicit false

inductive DecodeError where
  | missingField (name : String)
  | unknownVariant (found : String) (expected : List String)
  | invalidType
  | invalidValue
  | invalidLength (length : Nat)
deriving DecidableEq

def DecodeError.message : DecodeError → String
  | missingField name => s!"missing field `{name}`"
  | unknownVariant found expected =>
    s!"unknown variant `{found}`, expected {Text.alternatives expected}"
  | invalidType => "invalid type"
  | invalidValue => "invalid value"
  | invalidLength length => s!"invalid length {length}"

abbrev Decoder (α : Type) := Json → Except DecodeError α

class JsonFormat (α : Type) where
  encode : α → Json
  decode : Decoder α

export JsonFormat (encode decode)

/-- Reads one of several names, each with its meaning: a text, or an object whose only field has
that name and no value. -/
def decodeName {α : Type} (names : List (String × α)) : Decoder α
  | .str s => meaning s
  | .obj [(s, value)] => do
    let a ← meaning s
    match value with
    | .null => .ok a
    | _ => .error .invalidType
  | .obj _ => .error .invalidValue
  | _ => .error .invalidType
where
  meaning (s : String) : Except DecodeError α :=
    match names.lookup s with
    | some a => .ok a
    | none => .error (.unknownVariant s (names.map (·.1)))

/-- A field of a record, with the values that stand for it where an object leaves it out and where
an array ends before it. -/
structure Field (α : Type) where
  name : String
  decode : Decoder α
  ifMissing : Option α := none
  ifShort : Option α := none

namespace Field
variable {α : Type} [JsonFormat α]

def required (name : String) : Field α := { name, decode := JsonFormat.decode }

def withDefault (name : String) (value : α) : Field α :=
  { name, decode := JsonFormat.decode, ifMissing := some value, ifShort := some value }

end Field

structure Fields (α : Type) where
  size : Nat
  check : String → Json → Except DecodeError Unit
  ofObject : List (String × Json) → Except DecodeError α
  ofArray : Nat → List Json → Except DecodeError (α × List Json)

namespace Fields
variable {α β : Type}

def one (f : Field α) : Fields α where
  size := 1
  check name value := if name = f.name then (f.decode value).map fun _ => () else .ok ()
  ofObject fields :=
    match fields.lookup f.name, f.ifMissing with
    | some value, _ => f.decode value
    | none, some a => .ok a
    | none, none => .error (.missingField f.name)
  ofArray
    | _, value :: rest => (f.decode value).map (·, rest)
    | i, [] =>
      match f.ifShort with
      | some a => .ok (a, [])
      | none => .error (.invalidLength i)

def and (r : Fields α) (q : Fields β) : Fields (α × β) where
  size := r.size + q.size
  check name value := do
    r.check name value
    q.check name value
  ofObject fields := do
    let a ← r.ofObject fields
    let b ← q.ofObject fields
    return (a, b)
  ofArray i items := do
    let (a, rest) ← r.ofArray i items
    let (b, rest) ← q.ofArray (i + r.size) rest
    return ((a, b), rest)

def map (f : α → β) (r : Fields α) : Fields β where
  size := r.size
  check := r.check
  ofObject fields := (r.ofObject fields).map f
  ofArray i items := (r.ofArray i items).map fun p => (f p.1, p.2)

/-- Reads a record from an object or from the array of its fields. In an object the fields are
judged in the order in which they stand, and then the first one that is left out counts; unknown
fields do not matter. -/
def decode (r : Fields α) : Decoder α
  | .obj fields => do
    fields.forM fun field => r.check field.1 field.2
    r.ofObject fields
  | .arr items => do
    let (a, rest) ← r.ofArray 0 items
    if rest.isEmpty then .ok a else .error (.invalidLength items.length)
  | _ => .error .invalidType

end Fields

/-- Reads a record of the kind that its tag names; in an array the tag stands first. -/
def decodeTagged {α : Type} (tag : String) (kinds : List (String × Fields α)) : Decoder α
  | .obj fields =>
    match fields.lookup tag with
    | some t => do (← kind t).decode (.obj fields)
    | none => .error (.missingField tag)
  | .arr (t :: items) => do (← kind t).decode (.arr items)
  | .arr [] => .error (.missingField tag)
  | _ => .error .invalidType
where
  kind : Json → Except DecodeError (Fields α)
    | .str s =>
      match kinds.lookup s with
      | some r => .ok r
      | none => .error (.unknownVariant s (kinds.map (·.1)))
    | _ => .error .invalidType

instance : JsonFormat Bool where
  encode := .bool
  decode
    | .bool b => .ok b
    | _ => .error .invalidType

instance : JsonFormat String where
  encode := .str
  decode
    | .str s => .ok s
    | _ => .error .invalidType

instance : JsonFormat Nat where
  encode n := .int n
  decode
    | .int (.ofNat n) => .ok n
    | .int (.negSucc _) => .error .invalidValue
    | _ => .error .invalidType

instance : JsonFormat UInt64 where
  encode n := .int n.toNat
  decode value := do
    let n ← (JsonFormat.decode value : Except DecodeError Nat)
    if h : n < UInt64.size then .ok (UInt64.ofNatLT n h) else .error .invalidType

instance {α : Type} [JsonFormat α] : JsonFormat (Option α) where
  encode a := a.elim .null encode
  decode
    | .null => .ok none
    | value => (decode value).map some

instance {α : Type} [JsonFormat α] : JsonFormat (List α) where
  encode as := .arr (as.map encode)
  decode
    | .arr items => items.mapM decode
    | _ => .error .invalidType

instance {α : Type} [JsonFormat α] : JsonFormat (Array α) where
  encode as := encode as.toList
  decode value := (decode value : Except DecodeError (List α)).map List.toArray

end ArtifactResolution
