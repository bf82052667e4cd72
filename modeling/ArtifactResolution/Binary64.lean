namespace ArtifactResolution
set_option autoImplicit false

/-- A decimal `digits * 10 ^ exponent`. -/
structure Decimal where
  digits : Nat
  exponent : Int
deriving DecidableEq

/-- A floating-point number; a finite one is `m * 2 ^ q`, with `m` below `2 ^ 53`. -/
inductive Binary64 where
  | nan
  | infinite (negative : Bool)
  | finite (negative : Bool) (m : Nat) (q : Int)
deriving DecidableEq

namespace Binary64

/-- The quotient rounded to the nearest natural, a half to the even one. -/
def roundDiv (num den : Nat) : Nat :=
  let rest := 2 * (num % den)
  if rest < den ∨ rest = den ∧ num / den % 2 = 0 then num / den else num / den + 1

/-- The least binary exponent at which the integral part of a quotient has at most 53 bits. -/
def exponentOf (num den : Nat) : Int :=
  let q : Int := num.log2 - den.log2 - 52
  let q := if num * Nat.pow 2 (-q).toNat / (den * Nat.pow 2 q.toNat) < Nat.pow 2 52 then q - 1 else q
  max q (-1074)

def ofRatio (negative : Bool) (num den : Nat) : Binary64 :=
  let q := exponentOf num den
  let m := roundDiv (num * Nat.pow 2 (-q).toNat) (den * Nat.pow 2 q.toNat)
  let (m, q) := if m = Nat.pow 2 53 then (Nat.pow 2 52, q + 1) else (m, q)
  if q > 971 then infinite negative else finite negative m q

def zero (negative : Bool) : Binary64 := finite negative 0 (-1074)

/-- The floating-point number nearest to a decimal. Decimals far out of range are not computed. -/
def ofDecimal (negative : Bool) (d : Decimal) : Binary64 :=
  let magnitude := (Nat.toDigits 10 d.digits).length + d.exponent
  if d.digits = 0 ∨ magnitude < -330 then zero negative
  else if magnitude > 330 then infinite negative
  else ofRatio negative (d.digits * Nat.pow 10 d.exponent.toNat) (Nat.pow 10 (-d.exponent).toNat)

/-- Whether a decimal on the grid `10 ^ x` rounds to `m * 2 ^ q`: it lies between the halves of the
gaps to the neighbours, or on such a half if `m` is even. -/
def readsBack (m : Nat) (q x : Int) (digits : Nat) : Bool :=
  let quarter := Nat.pow 2 (q - 2).toNat * Nat.pow 10 (-x).toNat
  let unit := Nat.pow 2 (2 - q).toNat * Nat.pow 10 x.toNat
  let low := if m = Nat.pow 2 52 ∧ q > -1074 then 4 * m - 1 else 4 * m - 2
  let high := 4 * m + 2
  if m % 2 = 0 then low * quarter ≤ digits * unit ∧ digits * unit ≤ high * quarter
  else low * quarter < digits * unit ∧ digits * unit < high * quarter

/-- The decimal on the grid `10 ^ x` that is nearest to `m * 2 ^ q` among those that round to it;
of two equally near ones the greater. -/
def onGrid? (m : Nat) (q x : Int) : Option Decimal :=
  let value := m * Nat.pow 2 q.toNat * Nat.pow 10 (-x).toNat
  let unit := Nat.pow 2 (-q).toNat * Nat.pow 10 x.toNat
  let below := value / unit
  match readsBack m q x below, readsBack m q x (below + 1) with
  | true, true => some ⟨if 2 * value < (2 * below + 1) * unit then below else below + 1, x⟩
  | true, false => some ⟨below, x⟩
  | false, true => some ⟨below + 1, x⟩
  | false, false => none

/-- The least power of ten above `m * 2 ^ q`, found from the power of two below it. -/
def scale (m : Nat) (q : Int) : Int :=
  let s := ((m.log2 + q) * 30103).fdiv 100000
  let above (s : Int) : Bool :=
    m * Nat.pow 2 q.toNat * Nat.pow 10 (-s).toNat < Nat.pow 2 (-q).toNat * Nat.pow 10 s.toNat
  if above s then s else if above (s + 1) then s + 1 else s + 2

/-- The shortest decimal that rounds to `m * 2 ^ q`, for a positive `m`; seventeen digits
suffice. -/
def shortest (m : Nat) (q : Int) : Decimal :=
  let grids := (List.range 17).map fun (n : Nat) => scale m q - (n + 1)
  (grids.findSome? (onGrid? m q)).getD ⟨m * Nat.pow 2 q.toNat, 0⟩

end Binary64

namespace Decimal

/-- The decimal written without an exponent. -/
protected def toString (d : Decimal) : String :=
  let digits := Nat.toDigits 10 d.digits
  let places := (-d.exponent).toNat
  let padded := List.replicate (places + 1 - digits.length) '0' ++ digits ++
    List.replicate d.exponent.toNat '0'
  let whole := padded.take (padded.length - places)
  let fraction := (padded.drop (padded.length - places)).reverse.dropWhile (· = '0') |>.reverse
  String.ofList (if fraction.isEmpty then whole else whole ++ '.' :: fraction)

end Decimal

/-- The shortest decimal that rounds to the number. -/
protected def Binary64.toString : Binary64 → String
  | nan => "NaN"
  | infinite negative => (if negative then "-" else "") ++ "inf"
  | finite negative m q =>
    (if negative then "-" else "") ++ if m = 0 then "0" else (shortest m q).toString

instance : ToString Binary64 := ⟨Binary64.toString⟩

end ArtifactResolution
