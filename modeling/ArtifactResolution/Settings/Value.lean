import ArtifactResolution.Binary64
import ArtifactResolution.SortedEntries
import ArtifactResolution.Text.Quoted

namespace ArtifactResolution
set_option autoImplicit false

/-- A raw value. Some sources tell integers with a sign from those without, and single characters
from texts. -/
inductive RawValue where
  | bool (b : Bool)
  | signed (n : Int)
  | unsigned (n : Nat)
  | float (x : Binary64)
  | text (s : String)
  | char (c : Char)
  | list (items : List RawValue)
  | table (entries : List (String × RawValue))
deriving Inhabited

namespace RawValue

/-- The table of the given entries in ascending order of keys; of several values under a key the
last one counts. -/
def ofEntries (entries : List (String × RawValue)) : RawValue :=
  table (SortedEntries.ofList entries)

/-- The value in words; of a list or a table only what it is. -/
def describe : RawValue → String
  | bool b => s!"bool {b}"
  | signed n => s!"signed int `{n}`"
  | unsigned n => s!"unsigned int `{n}`"
  | float x => s!"float `{x}`"
  | text s => "string " ++ Text.quoted s
  | char c => "string " ++ Text.quoted c.toString
  | list _ => "sequence"
  | table _ => "map"

/-- The key under which a table in a document can hold a value that stands for the whole table. -/
def contentKey : String := "___figment_value_value"

/-- The key under which such a table can mark the value. Nothing that a document can hold is a
mark. -/
def markKey : String := "___figment_value_id"

mutual

/-- What a value in a document is read as: a table with a content gives way to it, and a table with
a mark cannot be read. -/
def content? : RawValue → Option RawValue
  | list items => (contents? items).map list
  | table entries => do
    let entries ← entryContents? entries
    if (entries.lookup markKey).isSome then none
    else return (entries.lookup contentKey).getD (table entries)
  | value => some value

def contents? : List RawValue → Option (List RawValue)
  | [] => some []
  | value :: values => do return (← content? value) :: (← contents? values)

def entryContents? : List (String × RawValue) → Option (List (String × RawValue))
  | [] => some []
  | (key, value) :: entries => do return (key, ← content? value) :: (← entryContents? entries)

end

end RawValue

end ArtifactResolution
