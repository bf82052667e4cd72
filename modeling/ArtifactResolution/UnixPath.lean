namespace ArtifactResolution
set_option autoImplicit false

/-- A path as it is written. Only paths in UTF-8 are represented: a lossy conversion to text changes
none of them, and each can be written as JSON. -/
structure UnixPath where
  text : String
deriving DecidableEq

namespace UnixPath

inductive Part where
  | root
  | here
  | parent
  | name (text : List Char)
deriving DecidableEq

/-- The stretches between separators. -/
def pieces : List Char → List (List Char)
  | [] => [[]]
  | c :: cs =>
    if c = '/' then [] :: pieces cs
    else (c :: (pieces cs).headD []) :: (pieces cs).tail

/-- Empty stretches and single dots lead nowhere. -/
def partOf? (piece : List Char) : Option Part :=
  if piece = [] ∨ piece = ['.'] then none
  else if piece = ['.', '.'] then some .parent
  else some (.name piece)

/-- A leading separator stands for the root, and only a leading dot is kept. -/
def firstParts : List (List Char) → List Part
  | [] :: _ :: _ => [.root]
  | ['.'] :: _ => [.here]
  | _ => []

def parts (p : UnixPath) : List Part :=
  firstParts (pieces p.text.toList) ++ (pieces p.text.toList).filterMap partOf?

/-- Paths are equivalent when they have the same parts. -/
instance : Setoid UnixPath where
  r p q := p.parts = q.parts
  iseqv := ⟨fun _ => rfl, Eq.symm, Eq.trans⟩

instance (p q : UnixPath) : Decidable (p ≈ q) := inferInstanceAs (Decidable (p.parts = q.parts))

/-- The last stretch that leads somewhere, unless it leads to a parent. -/
def fileName? (p : UnixPath) : Option (List Char) :=
  ((pieces p.text.toList).reverse.find? fun piece => (partOf? piece).isSome).filter
    (· ≠ ['.', '.'])

/-- What stands behind the last dot of a name, if something stands before that dot. -/
def extensionOf? (name : List Char) : Option (List Char) :=
  match name.reverse.dropWhile (· ≠ '.') with
  | _ :: _ :: _ => some (name.reverse.takeWhile (· ≠ '.')).reverse
  | _ => none

def extension? (p : UnixPath) : Option (List Char) := p.fileName?.bind extensionOf?

def join (dir : UnixPath) (name : String) : UnixPath :=
  if dir.text.isEmpty ∨ dir.text.back = '/' then ⟨dir.text ++ name⟩ else ⟨dir.text ++ "/" ++ name⟩

def Part.text : Part → String
  | root => ""
  | here => "."
  | parent => ".."
  | name t => String.ofList t

/-- The path from the working directory on, with single separators. -/
def normalized (p : UnixPath) : String :=
  "/".intercalate ((p.parts.filter (· ≠ .here)).map Part.text)

end UnixPath

end ArtifactResolution
