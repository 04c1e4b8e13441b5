/-
# The shortest decimal that reads back

Every real between the midpoints to the two neighbours of a double reads back as that double; the
midpoints do so too when the significand is even. The written digits are the fewest that lie in
this interval, and of those the nearest to the value.
-/
import ToolGateway.Decimal.Binary64

namespace ToolGateway
namespace Binary64

/-- The interval that rounds to a number, all three points over one denominator. -/
structure RoundingInterval where
  low : Nat
  value : Nat
  high : Nat
  denominator : Nat
  closed : Bool

/-- The interval of a finite, positive number: a quarter unit below a power of two, else half a
unit, and half a unit above. -/
def roundingInterval (x : Binary64) : RoundingInterval :=
  let m := x.significand
  let below := if m = unitWeight ∧ 1 < x.biased then 1 else 2
  let q := x.exponent - 2
  let up := Nat.pow 2 q.toNat
  { low := (4 * m - below) * up
    value := 4 * m * up
    high := (4 * m + 2) * up
    denominator := Nat.pow 2 (-q).toNat
    closed := m % 2 == 0 }

/-- The decimal `n · num / den` lies in the interval. -/
def RoundingInterval.mem (r : RoundingInterval) (n num den : Nat) : Bool :=
  let x := n * num * r.denominator
  if r.closed then r.low * den ≤ x && x ≤ r.high * den
  else r.low * den < x && x < r.high * den

/-- The point of the decimal grid `num / den` in the interval that is nearest to the value, a tie
going to the even one. -/
def RoundingInterval.nearest? (r : RoundingInterval) (num den : Nat) : Option Nat :=
  let lower := r.value * den / (r.denominator * num)
  let upper := lower + 1
  match r.mem lower num den, r.mem upper num den with
  | true, false => some lower
  | false, true => some upper
  | false, false => none
  | true, true =>
    let toLower := r.value * den - lower * num * r.denominator
    let toUpper := upper * num * r.denominator - r.value * den
    if toLower < toUpper then some lower
    else if toUpper < toLower then some upper
    else some (lower + lower % 2)

/-- The least `k` with `n < d · 10 ^ k`, searched from `k` upwards. -/
def magnitudeFrom (n d : Nat) : Nat → Int → Int
  | 0, k => k
  | fuel + 1, k =>
    let below := if 0 ≤ k then n < d * Nat.pow 10 k.toNat else n * Nat.pow 10 (-k).toNat < d
    if below then k else magnitudeFrom n d fuel (k + 1)

/-- The first grid, from `count` digits on, that has a point in the interval. -/
def shortestFrom (r : RoundingInterval) (magnitude : Int) : Nat → Nat → Nat × Int
  | 0, _ => (r.value / r.denominator, 0)
  | fuel + 1, count =>
    let e := magnitude - count
    match r.nearest? (Nat.pow 10 e.toNat) (Nat.pow 10 (-e).toNat) with
    -- only a power of ten just above the value ends in a zero here
    | some n => if n % 10 = 0 then (n / 10, e + 1) else (n, e)
    | none => shortestFrom r magnitude fuel (count + 1)

/-- Digits and decimal exponent of a finite, positive number. Seventeen digits always suffice. -/
def shortest (x : Binary64) : Nat × Int :=
  let r := x.roundingInterval
  -- a double has at most 309 places before the point and its first digit at the 324th place after
  let start : Int := ((Nat.log2 r.value : Int) - (Nat.log2 r.denominator : Int)) * 3 / 10 - 2
  shortestFrom r (magnitudeFrom r.value r.denominator 8 start) 17 1

/-- How digits are laid out: positional while the leading digit stands between the two exponents,
else with an exponent of at least two digits. -/
structure Layout where
  leastPositional : Int
  pastPositional : Int

/-- Positional from `0.0001` up to below `10 ^ 16`. -/
def layout : Layout := ⟨-4, 16⟩

/-- A positional text with at least one digit on both sides of the point. -/
def positional (digits : List Char) (exponent : Int) : String :=
  -- `exponent` is that of the leading digit
  if exponent < 0 then
    .ofList ("0.".toList ++ List.replicate (-exponent - 1).toNat '0' ++ digits)
  else
    let whole := exponent.toNat + 1
    let padded := digits ++ List.replicate (whole - digits.length) '0'
    let frac := padded.drop whole
    .ofList (padded.take whole ++ '.' :: (if frac.isEmpty then ['0'] else frac))

/-- A text with one digit before the point and a signed exponent of at least two digits. -/
def scientific (digits : List Char) (exponent : Int) : String :=
  let body := match digits with
    | d :: [] => [d]
    | d :: rest => d :: '.' :: rest
    | [] => []
  let size := toString exponent.natAbs
  .ofList body ++ (if exponent < 0 then "e-" else "e+")
    ++ (if size.length < 2 then "0" ++ size else size)

/-- The text of a number: the fewest digits that read back the same. -/
def text (x : Binary64) : String :=
  if x.isNaN then "nan"
  else
    let sign := if x.negative then "-" else ""
    if x.isInfinite then sign ++ "inf"
    else if x.isZero then sign ++ "0.0"
    else
      let (n, e) := x.shortest
      let digits := Nat.toDigits 10 n
      let lead := e + digits.length - 1
      if layout.leastPositional ≤ lead ∧ lead < layout.pastPositional then
        sign ++ positional digits lead
      else sign ++ scientific digits lead

end Binary64
end ToolGateway
