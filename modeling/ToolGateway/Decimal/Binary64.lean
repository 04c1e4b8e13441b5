/-
# Double precision numbers as 64 bits

A double is kept as its 64 bits, so that equality of values is decidable and means sameness of
the number as written. A finite double is `± m · 2 ^ q` with `m < 2 ^ 53` and `-1074 ≤ q`.
Reading rounds a ratio of naturals to the nearest double, a tie going to the even significand.
-/

namespace ToolGateway

/-- A number of the 64-bit binary format. -/
structure Binary64 where
  bits : UInt64
deriving DecidableEq, Repr, Inhabited

namespace Binary64

/-- The weight of the sign bit, two to the power 63. -/
def signWeight : Nat := 0x8000000000000000

/-- The weight of the last exponent bit, two to the power 52. A normal number has a bit of this
weight in front of its fraction. -/
def unitWeight : Nat := 0x10000000000000

/-- The sign bit. -/
def negative (x : Binary64) : Bool := signWeight ≤ x.bits.toNat

/-- The eleven exponent bits. -/
def biased (x : Binary64) : Nat := x.bits.toNat / unitWeight % 2048

/-- The 52 fraction bits. -/
def fraction (x : Binary64) : Nat := x.bits.toNat % unitWeight

/-- All exponent bits set and a fraction: not a number. -/
def isNaN (x : Binary64) : Bool := x.biased == 2047 && x.fraction != 0

/-- All exponent bits set and no fraction: an infinity. -/
def isInfinite (x : Binary64) : Bool := x.biased == 2047 && x.fraction == 0

/-- Neither an infinity nor not a number. -/
def isFinite (x : Binary64) : Bool := x.biased != 2047

/-- The significand `m` of a finite number. -/
def significand (x : Binary64) : Nat :=
  if x.biased = 0 then x.fraction else unitWeight + x.fraction

/-- The exponent `q` of a finite number. -/
def exponent (x : Binary64) : Int := (max x.biased 1 : Nat) - 1075

/-- Either zero. -/
def isZero (x : Binary64) : Bool := x.biased == 0 && x.fraction == 0

/-- The integer that a finite number without a fractional part equals. -/
def integer? (x : Binary64) : Option Int :=
  if !x.isFinite then none
  else
    let sign : Int := if x.negative then -1 else 1
    if 0 ≤ x.exponent then some (sign * (x.significand * Nat.pow 2 x.exponent.toNat : Nat))
    else
      let d := Nat.pow 2 (-x.exponent).toNat
      if x.significand % d = 0 then some (sign * (x.significand / d : Nat)) else none

/-- The same key of a map: the zeros are one key, and otherwise the bits decide. -/
def sameKey (x y : Binary64) : Bool :=
  (x.bits == y.bits && !x.isNaN) || (x.isZero && y.isZero)

/-- The number with the given sign, exponent bits and fraction. -/
def pack (negative : Bool) (biased fraction : Nat) : Binary64 :=
  ⟨UInt64.ofNat ((if negative then signWeight else 0) + biased * unitWeight + fraction)⟩

/-- The infinity of a sign. -/
def infinity (negative : Bool) : Binary64 := pack negative 2047 0

/-- The one quiet number that is not a number. -/
def nan : Binary64 := pack false 2047 (unitWeight / 2)

/-- The quotient rounded to the nearest natural, a half to the even one. -/
def divToEven (n d : Nat) : Nat :=
  let q := n / d
  let twice := 2 * (n % d)
  if twice < d then q else if d < twice then q + 1 else q + q % 2

/-- The double nearest to `n / d`, for a positive `d`. -/
def ofRatio (negative : Bool) (n d : Nat) : Binary64 :=
  if n = 0 then pack negative 0 0
  else
    -- the quotient lies between `2 ^ (e - 1)` and `2 ^ (e + 1)`
    let e : Int := (Nat.log2 n : Int) - (Nat.log2 d : Int)
    let q₀ : Int := e - 52
    let scaled (q : Int) : Nat × Nat :=
      if 0 ≤ q then (n, d * Nat.pow 2 q.toNat) else (n * Nat.pow 2 (-q).toNat, d)
    let tooWide := let s := scaled q₀; s.1 < s.2 * unitWeight
    let q : Int := max (if tooWide then q₀ - 1 else q₀) (-1074)
    let m := let s := scaled q; divToEven s.1 s.2
    let (m, q) := if m = 2 * unitWeight then (unitWeight, q + 1) else (m, q)
    if 971 < q then infinity negative
    else if m < unitWeight then pack negative 0 m
    else pack negative (q + 1075).toNat (m - unitWeight)

/-- How many decimal digits a natural has. -/
def decimalLength (n : Nat) : Nat := (Nat.toDigits 10 n).length

/-- The double nearest to `m · 10 ^ e`. Beyond the range of doubles the power is not formed. -/
def ofDecimal (negative : Bool) (m : Nat) (e : Int) : Binary64 :=
  if m = 0 then pack negative 0 0
  else
    let top : Int := decimalLength m + e
    if 320 < top then infinity negative
    else if top < -340 then pack negative 0 0
    else if 0 ≤ e then ofRatio negative (m * Nat.pow 10 e.toNat) 1
    else ofRatio negative m (Nat.pow 10 (-e).toNat)

/-- The double nearest to an integer. -/
def ofInt (i : Int) : Binary64 := ofRatio (i < 0) i.natAbs 1

example : ofDecimal false 1 (-1) = ⟨0x3fb999999999999a⟩ := by decide +kernel
example : ofDecimal true 5 (-324) = ⟨0x8000000000000001⟩ := by decide +kernel
example : ofDecimal false 17976931348623157 292 = ⟨0x7fefffffffffffff⟩ := by decide +kernel
example : ofDecimal false 9007199254740993 0 = ⟨0x4340000000000000⟩ := by decide +kernel

end Binary64
end ToolGateway
