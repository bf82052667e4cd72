import ArtifactResolution.Binary64

namespace ArtifactResolution.Text
set_option autoImplicit false

def hexDigit? (c : Char) : Option Nat :=
  if c.isDigit then some (c.toNat - '0'.toNat)
  else if 'a' ≤ c ∧ c ≤ 'f' then some (c.toNat - 'a'.toNat + 10)
  else if 'A' ≤ c ∧ c ≤ 'F' then some (c.toNat - 'A'.toNat + 10)
  else none

/-- The number that digits stand for in a base. -/
def natOfDigits (base : Nat) (cs : List Char) : Nat :=
  cs.foldl (fun n c => base * n + (hexDigit? c).getD 0) 0

/-- Whether there is a minus sign, and what follows the sign. -/
def splitSign : List Char → Bool × List Char
  | '-' :: cs => (true, cs)
  | '+' :: cs => (false, cs)
  | cs => (false, cs)

def signedOf (negative : Bool) (n : Nat) : Int := if negative then -n else n

/-- The floating-point number nearest to the one with the given digits before and behind the
point, times a power of ten. -/
def binary64OfDigits (negative : Bool) (whole fraction : List Char) (exponent : Int) : Binary64 :=
  .ofDecimal negative ⟨natOfDigits 10 (whole ++ fraction), exponent - fraction.length⟩

end ArtifactResolution.Text
