/-
# Reading bits

Compressed octets are read bit by bit, the lowest bit of each octet first. Reading stops where the
octets end, or where they break a rule of the format.
-/

namespace ToolGateway
namespace Compression

/-- A rule that compressed octets break. -/
inductive Fault where
  | header
  | method
  | window
  | headerFlags
  | headerSum
  | blockKind
  | storedLength
  | tooManyCodes
  | lengthCodes
  | lengthRepeat
  | noEndCode
  | literalCodes
  | distanceCodes
  | literal
  | distance
  | farDistance
  | contentSum
  | contentLength
  /-- The octets ask for a dictionary. -/
  | dictionary
deriving DecidableEq, Repr

namespace Fault

/-- The rule in words, if there are words for it. -/
def rule? : Fault → Option String
  | header => some "incorrect header check"
  | method => some "unknown compression method"
  | window => some "invalid window size"
  | headerFlags => some "unknown header flags set"
  | headerSum => some "header crc mismatch"
  | blockKind => some "invalid block type"
  | storedLength => some "invalid stored block lengths"
  | tooManyCodes => some "too many length or distance symbols"
  | lengthCodes => some "invalid code lengths set"
  | lengthRepeat => some "invalid bit length repeat"
  | noEndCode => some "invalid code -- missing end-of-block"
  | literalCodes => some "invalid literal/lengths set"
  | distanceCodes => some "invalid distances set"
  | literal => some "invalid literal/length code"
  | distance => some "invalid distance code"
  | farDistance => some "invalid distance too far back"
  | contentSum => some "incorrect data check"
  | contentLength => some "incorrect length check"
  | dictionary => none

/-- The fault in words. -/
def message (f : Fault) : String :=
  match f.rule? with
  | some rule => "Error -3 while decompressing data: " ++ rule
  | none => "Error 2 while decompressing data"

end Fault

/-- Why reading stops early. -/
inductive Stop where
  /-- The octets end. -/
  | short
  | broken (fault : Fault)
deriving DecidableEq, Repr

/-- What is left to be read: the bits left of an octet, and the octets behind it. -/
structure Source where
  pending : List Bool
  octets : List UInt8
deriving DecidableEq

namespace Source

/-- The bits of an octet, the lowest first. -/
def bitsOf (b : UInt8) : List Bool := (List.range 8).map b.toNat.testBit

/-- How many bits are left. -/
def bitCount (s : Source) : Nat := s.pending.length + 8 * s.octets.length

end Source

/-- Reading from a source. -/
abbrev Reading := StateT Source (Except Stop)

namespace Reading

/-- Stops with a fault. -/
def fail {α : Type} (f : Fault) : Reading α := fun _ => .error (.broken f)

/-- The next bit. -/
def bit : Reading Bool := fun s =>
  match s.pending, s.octets with
  | b :: rest, _ => .ok (b, ⟨rest, s.octets⟩)
  | [], o :: rest =>
    match Source.bitsOf o with
    | b :: bits => .ok (b, ⟨bits, rest⟩)
    | [] => .error .short
  | [], [] => .error .short

/-- The number of some bits, the lowest first. -/
def bits : Nat → Reading Nat
  | 0 => pure 0
  | n + 1 => do
    let b ← bit
    let rest ← bits n
    return 2 * rest + (if b then 1 else 0)

/-- Leaves out what is left of an octet. -/
def toOctet : Reading Unit := fun s => .ok ((), ⟨[], s.octets⟩)

end Reading
end Compression
end ToolGateway
