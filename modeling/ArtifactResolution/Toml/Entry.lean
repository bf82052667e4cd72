import ArtifactResolution.Settings.Value

namespace ArtifactResolution.Toml
set_option autoImplicit false

/-- How a table came about: it has a header of its own, it is only on the path of a header, or it
is on the path of a dotted key. -/
inductive Origin where
  | header
  | parent
  | dotted
deriving DecidableEq

/-- What stands under a key. In an array of tables the last table is the one that grows. -/
inductive Entry where
  | value (v : RawValue)
  | table (origin : Origin) (entries : List (String × Entry))
  | tables (last : List (String × Entry)) (earlier : List (List (String × Entry)))

abbrev Entries := List (String × Entry)

def Entries.put (es : Entries) (key : String) (e : Entry) : Entries :=
  (key, e) :: es.filter (·.1 ≠ key)

/-- Changes the table that a path leads to; tables that are missing on the way are made. A dotted
key does not reach into a table with a header of its own. -/
def change (made : Origin) (f : Origin → Entries → Option Entries) :
    List String → Origin → Entries → Option Entries
  | [], origin, es => f origin es
  | key :: path, _, es =>
    match es.lookup key with
    | none => do return es.put key (.table made (← change made f path made []))
    | some (.value _) => none
    | some (.table origin inner) =>
      if made = .dotted ∧ origin = .header then none
      else do return es.put key (.table origin (← change made f path origin inner))
    | some (.tables last earlier) => do
      return es.put key (.tables (← change made f path .header last) earlier)

/-- Writes a value under a dotted key. The table that gets it must have come about by dotted keys,
and the key must be new. -/
def assign (path : List String) (key : String) (v : RawValue) (es : Entries) : Option Entries :=
  change .dotted put path .header es
where
  put (origin : Origin) (es : Entries) : Option Entries :=
    if path.isEmpty = (origin = .dotted) ∨ (es.lookup key).isSome then none
    else some (es.put key (.value v))

/-- Gives a table its header; it must be new or have been only on the path of other headers. -/
def openTable (path : List String) (key : String) (es : Entries) : Option Entries :=
  change .parent put path .header es
where
  put (_ : Origin) (es : Entries) : Option Entries :=
    match es.lookup key with
    | none => some (es.put key (.table .header []))
    | some (.table .parent inner) => some (es.put key (.table .header inner))
    | some _ => none

def pushTable (path : List String) (key : String) (es : Entries) : Option Entries :=
  change .parent put path .header es
where
  put (_ : Origin) (es : Entries) : Option Entries :=
    match es.lookup key with
    | none => some (es.put key (.tables [] []))
    | some (.tables last earlier) => some (es.put key (.tables [] (last :: earlier)))
    | some _ => none

mutual

def Entry.toRaw : Entry → RawValue
  | .value v => v
  | .table _ es => .ofEntries (rawEntries es)
  | .tables last earlier => .list (rawTables earlier [.ofEntries (rawEntries last)])

def rawEntries : List (String × Entry) → List (String × RawValue)
  | [] => []
  | (key, e) :: es => (key, e.toRaw) :: rawEntries es

/-- The tables before those given, the latest first. -/
def rawTables : List (List (String × Entry)) → List RawValue → List RawValue
  | [], later => later
  | es :: earlier, later => rawTables earlier (.ofEntries (rawEntries es) :: later)

end

end ArtifactResolution.Toml
