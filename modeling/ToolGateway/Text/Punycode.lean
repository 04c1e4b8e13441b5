/-
# Labels in ASCII

A label with characters outside ASCII is written as its ASCII characters, a hyphen, and the other
characters as distances in a variable-length code with 36 digits whose thresholds adapt to the
distances seen. What is read back need not be a character: it is kept as a code point.
-/
import ToolGateway.Text.Ranges

namespace ToolGateway
namespace Text
namespace Punycode

/-! ## Digits and thresholds -/

/-- A digit of the code: the letters first. -/
def digit (d : Nat) : Char := if d < 26 then Char.ofNat (97 + d) else Char.ofNat (22 + d)

/-- The threshold of the digit at place `k`, in steps of 36. -/
def threshold (k bias : Nat) : Nat :=
  if k ≤ bias then 1 else if bias + 26 ≤ k then 26 else k - bias

/-- Divides a distance by 35 until it is small, counting 36 for each time. -/
def scale : Nat → Nat → Nat → Nat
  | 0, k, delta => k + 36 * delta / (delta + 38)
  | fuel + 1, k, delta =>
    if 455 < delta then scale fuel (k + 36) (delta / 35) else k + 36 * delta / (delta + 38)

/-- The bias after a distance. -/
def adapt (delta count : Nat) (first : Bool) : Nat :=
  let delta := if first then delta / 700 else delta / 2
  let delta := delta + delta / count
  scale delta 0 delta

/-- The digits of a distance. -/
def digits (bias : Nat) : Nat → Nat → Nat → List Char
  | 0, _, q => [digit q]
  | fuel + 1, k, q =>
    let t := threshold k bias
    if q < t then [digit q]
    else digit (t + (q - t) % (36 - t)) :: digits bias fuel (k + 36) ((q - t) / (36 - t))

/-- Where the coding of a label stands: the last code point, the distance passed since, the bias,
the number of characters done, and whether nothing was coded yet. -/
structure Coder where
  point : Nat
  delta : Nat
  bias : Nat
  done : Nat
  first : Bool

/-- Codes the characters of one code point as they come up. -/
def codePoint (n : Nat) : List Nat → Coder → List Char × Coder
  | [], s => ([], s)
  | c :: rest, s =>
    if c < n then codePoint n rest { s with delta := s.delta + 1 }
    else if c = n then
      let out := digits s.bias s.delta 36 s.delta
      let bias := adapt s.delta (s.done + 1) s.first
      let (more, s) := codePoint n rest
        { s with delta := 0, bias, done := s.done + 1, first := false }
      (out ++ more, s)
    else codePoint n rest s

/-- Codes the characters from a code point on, one code point after the other. -/
def codeFrom (points : List Nat) : Nat → Coder → List Char
  | 0, _ => []
  | fuel + 1, s =>
    match (points.filter (s.point ≤ ·)).min? with
    | none => []
    | some m =>
      let s := { s with delta := s.delta + (m - s.point) * (s.done + 1), point := m }
      let (out, s) := codePoint m points s
      out ++ codeFrom points fuel { s with delta := s.delta + 1, point := m + 1 }

/-- The code of a label. -/
def encode (label : List Nat) : List Char :=
  let basic := label.filter (· < 128)
  let head := if basic.isEmpty then [] else basic.map Char.ofNat ++ ['-']
  head ++ codeFrom label label.length ⟨128, 0, 72, basic.length, true⟩

/-! ## Reading back -/

/-- The value of a digit; capitals count as small letters. -/
def digitValue? (c : Char) : Option Nat :=
  let c := c.toLower
  if 'a' ≤ c ∧ c ≤ 'z' then some (c.toNat - 97)
  else if '0' ≤ c ∧ c ≤ '9' then some (c.toNat - 22)
  else none

/-- A distance at the front and the digits behind it; `weight` is that of the next digit and
`sum` what was read. -/
def distance? (bias : Nat) : List Char → Nat → Nat → Nat → Option (Nat × List Char)
  | [], _, _, _ => none
  | c :: rest, k, weight, sum =>
    match digitValue? c with
    | none => none
    | some d =>
      let t := threshold k bias
      if d < t then some (sum + d * weight, rest)
      else distance? bias rest (k + 36) (weight * (36 - t)) (sum + d * weight)

/-- Where the reading of a label stands: the place of the last code point, that code point, the
bias, and whether nothing was read yet. -/
structure Placer where
  place : Nat
  point : Nat
  bias : Nat
  first : Bool

/-- The greatest code point. -/
def pointLimit : Nat := 0x10FFFF

/-- Puts the code points of all distances in their places. If broken code is let pass, what was
placed before it is the label, and a question mark stands for what is beyond all code points. -/
def placeAll (lets : Bool) : Nat → Placer → List Nat → List Char → Option (List Nat)
  | 0, _, done, _ => some done
  | _ + 1, _, done, [] => some done
  | fuel + 1, s, done, code =>
    match distance? s.bias code 36 1 0 with
    | none => if lets then some done else none
    | some (delta, rest) =>
      let total := s.place + delta
      let point := s.point + total / (done.length + 1)
      if pointLimit < point && !lets then none
      else
        let point := if pointLimit < point then 0x3F else point
        let place := total % (done.length + 1)
        placeAll lets fuel
          ⟨place + 1, point, adapt delta (done.length + 1) s.first, false⟩
          (done.take place ++ point :: done.drop place) rest

/-- The part before the last hyphen, and the part behind it. -/
def cutLast (code : List Char) : List Char × List Char :=
  let behind := (code.reverse.takeWhile (· != '-')).reverse
  ((code.take (code.length - behind.length)).dropLast, behind)

/-- The label of the code points before the last hyphen and the digits behind it. -/
def decodeParts? (lets : Bool) (basic : List Nat) (coded : List Char) : Option (List Nat) :=
  placeAll lets coded.length ⟨0, 128, 72, true⟩ basic coded

/-- The label of a code. -/
def decode? (lets : Bool) (code : List Char) : Option (List Nat) :=
  let (basic, coded) := cutLast code
  decodeParts? lets (basic.map Char.toNat) coded

example : String.ofList (encode ("bücher".toList.map Char.toNat)) = "bcher-kva" := by
  decide +kernel
example : decode? false "bcher-kva".toList = some ("bücher".toList.map Char.toNat) := by
  decide +kernel

end Punycode
end Text
end ToolGateway
