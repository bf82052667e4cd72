namespace ArtifactResolution
set_option autoImplicit false

/-- By default nodes keep the order in which they are first visited. -/
inductive SortOrder where
  | default
  | dependencyFirst
  | consumerFirst
deriving DecidableEq

namespace SortOrder

protected def toString : SortOrder → String
  | default => "default"
  | dependencyFirst => "dependency-first"
  | consumerFirst => "consumer-first"

instance : ToString SortOrder := ⟨SortOrder.toString⟩

def all : List SortOrder := [default, dependencyFirst, consumerFirst]

def isDefault (o : SortOrder) : Bool := o == default

structure ParseError where
  text : String
deriving DecidableEq

def ParseError.message (e : ParseError) : String :=
  s!"unknown sort order '{e.text}' (expected default, dependency-first or consumer-first)"

/-- Spellings are compared with the letter case of ASCII ignored and underscores as hyphens. -/
def normalize (c : Char) : Char := if c = '_' then '-' else c.toLower

def parse (text : String) : Except ParseError SortOrder :=
  match all.find? fun o => o.toString.toList = text.toList.map normalize with
  | some o => .ok o
  | none => .error ⟨text⟩

end SortOrder

end ArtifactResolution
