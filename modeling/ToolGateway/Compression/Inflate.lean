/-
# Inflating

Compressed octets are blocks. A block holds octets as they stand, or symbols of two prefix codes:
a symbol of the first one is an octet, the end of the block, or a length, and then a symbol of the
second one is the distance at which octets of this length were before. The codes are fixed, or
are described at the front of the block. What was inflated before an early end is kept.
-/
import ToolGateway.Compression.PrefixCode

namespace ToolGateway
namespace Compression

/-- What was inflated, and where reading ended. -/
structure Inflated where
  octets : Array UInt8
  rest : Except Stop Source

namespace Inflate

/-! ## Lengths and distances -/

/-- The least length of each symbol and how many bits are added to it. -/
def lengthSteps : Array (Nat × Nat) := #[
  (3, 0), (4, 0), (5, 0), (6, 0), (7, 0), (8, 0), (9, 0), (10, 0), (11, 1), (13, 1), (15, 1),
  (17, 1), (19, 2), (23, 2), (27, 2), (31, 2), (35, 3), (43, 3), (51, 3), (59, 3), (67, 4),
  (83, 4), (99, 4), (115, 4), (131, 5), (163, 5), (195, 5), (227, 5), (258, 0)]

/-- The least distance of each symbol and how many bits are added to it. -/
def distanceSteps : Array (Nat × Nat) := #[
  (1, 0), (2, 0), (3, 0), (4, 0), (5, 1), (7, 1), (9, 2), (13, 2), (17, 3), (25, 3), (33, 4),
  (49, 4), (65, 5), (97, 5), (129, 6), (193, 6), (257, 7), (385, 7), (513, 8), (769, 8),
  (1025, 9), (1537, 9), (2049, 10), (3073, 10), (4097, 11), (6145, 11), (8193, 12), (12289, 12),
  (16385, 13), (24577, 13)]

/-- The number of a symbol with its further bits. -/
def stepped (steps : Array (Nat × Nat)) (symbol : Nat) (fault : Fault) : Reading Nat :=
  match steps[symbol]? with
  | some (least, extra) => do
    let more ← Reading.bits extra
    return least + more
  | none => Reading.fail fault

/-- The length of a symbol and the distance behind it. -/
def reference (distances : PrefixCode) (symbol : Nat) : Reading (Nat × Nat) := do
  let length ← stepped lengthSteps (symbol - 257) .literal
  let d ← distances.next .distance
  let distance ← stepped distanceSteps d .distance
  return (length, distance)

/-- Adds octets that were at a distance before. -/
def repeated (distance : Nat) : Nat → Array UInt8 → Array UInt8
  | 0, out => out
  | n + 1, out => repeated distance n (out.push (out[out.size - distance]?.getD 0))

/-! ## Blocks -/

/-- The symbols of a block up to its end. -/
def symbols (literals distances : PrefixCode) : Nat → Array UInt8 → Source → Inflated
  | 0, out, _ => ⟨out, .error .short⟩
  | fuel + 1, out, s =>
    match literals.next .literal s with
    | .error stop => ⟨out, .error stop⟩
    | .ok (symbol, s) =>
      if symbol < 256 then symbols literals distances fuel (out.push (UInt8.ofNat symbol)) s
      else if symbol = 256 then ⟨out, .ok s⟩
      else
        match reference distances symbol s with
        | .error stop => ⟨out, .error stop⟩
        | .ok ((length, distance), s) =>
          if out.size < distance then ⟨out, .error (.broken .farDistance)⟩
          else symbols literals distances fuel (repeated distance length out) s

/-- The fixed code of octets and lengths. -/
def fixedLiterals : PrefixCode :=
  .ofLengths (List.replicate 144 8 ++ List.replicate 112 9 ++ List.replicate 24 7
    ++ List.replicate 8 8)

/-- The fixed code of distances. -/
def fixedDistances : PrefixCode := .ofLengths (List.replicate 32 5)

/-- The order in which the lengths of the codes for lengths are given. -/
def lengthOrder : List Nat :=
  [16, 17, 18, 0, 8, 7, 9, 6, 10, 5, 11, 4, 12, 3, 13, 2, 14, 1, 15]

/-- Some numbers of three bits. -/
def triples : Nat → Reading (List Nat)
  | 0 => pure []
  | n + 1 => do
    let x ← Reading.bits 3
    let rest ← triples n
    return x :: rest

/-- The code for lengths. Without any code every bit stands for the length zero. -/
def lengthCode (given : List Nat) : PrefixCode :=
  let lengths := (List.range 19).map fun symbol =>
    ((lengthOrder.zip given).find? fun e => e.1 = symbol).elim 0 Prod.snd
  if lengths.all (· = 0) then ⟨[2], #[0, 0]⟩ else .ofLengths lengths

/-- The lengths of codes, given in reverse as far as they are read. Three symbols stand for a run:
of the last length, or of zeros. -/
def codeLengths (code : PrefixCode) (wanted : Nat) : Nat → List Nat → Reading (List Nat)
  | 0, done => pure done.reverse
  | fuel + 1, done =>
    if wanted ≤ done.length then pure done.reverse
    else do
      let symbol ← code.next .lengthCodes
      if symbol < 16 then codeLengths code wanted fuel (symbol :: done)
      else
        let (least, extra) := if symbol = 16 then (3, 2) else if symbol = 17 then (3, 3)
          else (11, 7)
        let count := least + (← Reading.bits extra)
        let repeats := if symbol = 16 then done.head? else some 0
        match repeats with
        | none => Reading.fail .lengthRepeat
        | some n =>
          if wanted < done.length + count then Reading.fail .lengthRepeat
          else codeLengths code wanted fuel (List.replicate count n ++ done)

/-- The codes at the front of a block. -/
def describedCodes : Reading (PrefixCode × PrefixCode) := do
  let counts ← Reading.bits 14
  let literalCount := counts % 32 + 257
  let distanceCount := counts / 32 % 32 + 1
  let lengthCount := counts / 1024 + 4
  if 286 < literalCount || 30 < distanceCount then Reading.fail .tooManyCodes
  let code := lengthCode (← triples lengthCount)
  if !code.isComplete then Reading.fail .lengthCodes
  let wanted := literalCount + distanceCount
  let lengths ← codeLengths code wanted wanted []
  let literalLengths := lengths.take literalCount
  if literalLengths[256]?.getD 0 = 0 then Reading.fail .noEndCode
  let literals := PrefixCode.ofLengths literalLengths
  if !literals.isUsable then Reading.fail .literalCodes
  let distances := PrefixCode.ofLengths (lengths.drop literalCount)
  if !distances.isUsable then Reading.fail .distanceCodes
  return (literals, distances)

/-- The length of a block of octets as they stand; it is given twice, once with all bits
turned. -/
def storedLength : Reading Nat := do
  Reading.toOctet
  let n ← Reading.bits 32
  if n % 65536 + n / 65536 ≠ 65535 then Reading.fail .storedLength
  return n % 65536

/-- A block of octets as they stand. -/
def stored (out : Array UInt8) (s : Source) : Inflated :=
  match storedLength s with
  | .error stop => ⟨out, .error stop⟩
  | .ok (n, s) =>
    let octets := s.octets.take n
    let out := out ++ octets.toArray
    if octets.length < n then ⟨out, .error .short⟩ else ⟨out, .ok ⟨[], s.octets.drop n⟩⟩

/-- A block with described codes. -/
def described (fuel : Nat) (out : Array UInt8) (s : Source) : Inflated :=
  match describedCodes s with
  | .error stop => ⟨out, .error stop⟩
  | .ok ((literals, distances), s) => symbols literals distances fuel out s

/-- A block of a kind. -/
def block (kind fuel : Nat) (out : Array UInt8) (s : Source) : Inflated :=
  match kind with
  | 0 => stored out s
  | 1 => symbols fixedLiterals fixedDistances fuel out s
  | 2 => described fuel out s
  | _ => ⟨out, .error (.broken .blockKind)⟩

/-- The blocks up to the last one; `size` bounds the number of symbols in each. -/
def blocks (size : Nat) : Nat → Array UInt8 → Source → Inflated
  | 0, out, _ => ⟨out, .error .short⟩
  | fuel + 1, out, s =>
    match Reading.bits 3 s with
    | .error stop => ⟨out, .error stop⟩
    | .ok (front, s) =>
      let r := block (front / 2) size out s
      match r.rest with
      | .error _ => r
      | .ok s =>
        if front % 2 = 1 then { r with rest := .ok ⟨[], s.octets⟩ }
        else blocks size fuel r.octets s

end Inflate

/-- Inflates blocks. Every symbol and every block takes a bit, which bounds their number. -/
def inflate (s : Source) : Inflated :=
  Inflate.blocks (s.bitCount + 1) (s.bitCount + 1) #[] s

end Compression
end ToolGateway
