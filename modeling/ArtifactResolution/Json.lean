import ArtifactResolution.SortedEntries

namespace ArtifactResolution
set_option autoImplicit false

/-- A JSON value; a number that is not an integer of 64 bits stays as it is written. -/
inductive Json where
  | null
  | bool (b : Bool)
  | int (n : Int)
  | decimal (numeral : String)
  | str (s : String)
  | arr (items : List Json)
  | obj (fields : List (String × Json))
deriving Inhabited

namespace Json

/-- The integer that a text of digits, perhaps behind a minus sign, stands for. -/
def integer? : List Char → Option Int
  | '-' :: digits => (digits.foldlM digit? 0).map fun n => -(n : Int)
  | digits => (digits.foldlM digit? 0).map fun n => (n : Int)
where
  digit? (n : Nat) (c : Char) : Option Nat :=
    if c.isDigit then some (10 * n + (c.toNat - '0'.toNat)) else none

/-- The value of a numeral. Zero with a minus sign is not an integer. -/
def ofNumeral (numeral : String) : Json :=
  match integer? numeral.toList with
  | some n =>
    if numeral ≠ "-0" ∧ Int64.minValue.toInt ≤ n ∧ n < UInt64.size then int n else decimal numeral
  | none => decimal numeral

/-- The object with the given fields in ascending order; the last of several values of a field
counts. -/
def ofFields (fields : List (String × Json)) : Json :=
  obj (SortedEntries.ofList fields)

end Json

end ArtifactResolution
