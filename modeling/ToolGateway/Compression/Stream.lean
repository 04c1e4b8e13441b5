/-
# Streams of compressed octets

Blocks come alone, or in one of two frames, each with a header in front and sums behind that tell
whether the content is what it was. A stream that ends early gives what was inflated of it; one
that breaks a rule gives nothing. What is behind a stream does not count.
-/
import ToolGateway.Compression.Inflate

namespace ToolGateway
namespace Compression

/-! ## Sums -/

/-- A step of the division by the polynomial of the cyclic sum. -/
def cyclicStep (r : UInt32) : UInt32 :=
  if r &&& 1 = 1 then (r >>> 1) ^^^ 0xEDB88320 else r >>> 1

/-- The cyclic sum so far with one more octet. -/
def cyclicOctet (r : UInt32) (b : UInt8) : UInt32 :=
  (List.range 8).foldl (fun r _ => cyclicStep r) (r ^^^ b.toUInt32)

/-- The cyclic sum of octets. -/
def cyclicSum (octets : Array UInt8) : UInt32 :=
  octets.foldl cyclicOctet 0xFFFFFFFF ^^^ 0xFFFFFFFF

/-- The two sums of octets: of the octets, and of the sums so far. -/
def runningSum (octets : Array UInt8) : Nat :=
  let (a, b) := octets.foldl (fun (a, b) x =>
    let a := (a + x.toNat) % 65521
    (a, (a + b) % 65521)) (1, 0)
  b * 65536 + a

example : cyclicSum "123456789".toUTF8.data = 0xCBF43926 := by decide +kernel
example : runningSum "Wikipedia".toUTF8.data = 0x11E60398 := by decide +kernel

/-! ## Frames -/

/-- The frames that blocks come in. -/
inductive Frame where
  | none
  | zlib
  | gzip
deriving DecidableEq, Repr

namespace Frame

/-- Octets as a number, the highest first. -/
def bigEndian (octets : List UInt8) : Nat := octets.foldl (fun n b => n * 256 + b.toNat) 0

/-- Some octets; what is left of an octet has been left out. -/
def octets (n : Nat) : Reading (List UInt8) := fun s =>
  if s.octets.length < n then .error .short
  else .ok (s.octets.take n, ⟨[], s.octets.drop n⟩)

/-- Leaves out a text that ends in a zero. -/
def skipText : Reading Unit := fun s =>
  match s.octets.dropWhile (· != 0) with
  | _ :: rest => .ok ((), ⟨[], rest⟩)
  | [] => .error .short

/-- The header of the smaller frame: a method with a window, and flags that make the whole a
multiple of 31. -/
def zlibHeader : Reading Unit := do
  let front ← octets 2
  let n := bigEndian front
  if n % 31 ≠ 0 then Reading.fail .header
  if n / 256 % 16 ≠ 8 then Reading.fail .method
  if 7 < n / 4096 then Reading.fail .window
  if n.testBit 5 then
    let _ ← octets 4
    Reading.fail .dictionary

/-- The sum of the header so far. The lower half of the cyclic sum is behind a header that has
one. -/
def checkHeaderSum (start : List UInt8) : Reading Unit := do
  let here ← get
  let header := start.take (start.length - here.octets.length)
  let given ← octets 2
  if bigEndian given.reverse ≠ (cyclicSum header.toArray).toNat % 65536 then
    Reading.fail .headerSum

/-- The parts of a header that its flags ask for. -/
def gzipParts (start : List UInt8) (flags : Nat) : Reading Unit := do
  if flags.testBit 2 then
    let length ← octets 2
    let _ ← octets (bigEndian length.reverse)
  if flags.testBit 3 then skipText
  if flags.testBit 4 then skipText
  if flags.testBit 1 then checkHeaderSum start

/-- The header of the larger frame: a mark, a method, flags, a time and two octets, and then the
parts that the flags ask for. -/
def gzipHeader : Reading Unit := do
  let start := (← get).octets
  if (← octets 2) ≠ [0x1F, 0x8B] then Reading.fail .header
  let front ← octets 2
  let flags := bigEndian (front.drop 1)
  if front.head? ≠ some 8 then Reading.fail .method
  if 32 ≤ flags then Reading.fail .headerFlags
  let _ ← octets 4
  let _ ← octets 2
  gzipParts start flags

/-- What is in front of the blocks. -/
def header : Frame → Reading Unit
  | none => pure ()
  | zlib => zlibHeader
  | gzip => gzipHeader

/-- What is behind the blocks fits the content. -/
def trailer (content : Array UInt8) : Frame → Reading Unit
  | none => pure ()
  | zlib => do
    if bigEndian (← octets 4) ≠ runningSum content then Reading.fail .contentSum
  | gzip => do
    if bigEndian (← octets 4).reverse ≠ (cyclicSum content).toNat then Reading.fail .contentSum
    if bigEndian (← octets 4).reverse ≠ content.size % 4294967296 then
      Reading.fail .contentLength

/-- The content of a stream in a frame. -/
def content (f : Frame) (octets : List UInt8) : Except Fault (List UInt8) :=
  match f.header ⟨[], octets⟩ with
  | .error .short => .ok []
  | .error (.broken fault) => .error fault
  | .ok ((), s) =>
    let r := inflate s
    match r.rest.bind (f.trailer r.octets) with
    | .error (.broken fault) => .error fault
    | _ => .ok r.octets.toList

end Frame
end Compression
end ToolGateway
