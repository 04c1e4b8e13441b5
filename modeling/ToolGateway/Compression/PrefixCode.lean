/-
# Prefix codes

A prefix code is given by the length of the code of each symbol: codes of one length are counted
through in the order of their symbols, shorter ones first. A symbol is read by comparing the bits
read so far with the first code of each length.
-/
import ToolGateway.Compression.Bits

namespace ToolGateway
namespace Compression

/-- A prefix code: how many codes there are of each length from one on, and the symbols in the
order of their codes. -/
structure PrefixCode where
  counts : List Nat
  symbols : Array Nat
deriving DecidableEq, Repr

namespace PrefixCode

/-- The longest code has this many bits. -/
def lengthLimit : Nat := 15

/-- The code of the lengths of the symbols; a symbol of length zero has no code. -/
def ofLengths (lengths : List Nat) : PrefixCode :=
  let used := (List.range lengthLimit).map (· + 1)
  let counts := used.map fun n => lengths.count n
  let longest := (counts.reverse.dropWhile (· = 0)).length
  ⟨counts.take longest,
    (used.flatMap fun n =>
      (lengths.zipIdx.filter fun e => e.1 = n).map Prod.snd).toArray⟩

/-- How many codes of the length reached are free: twice as many with each bit, less those in use.
There is none if more are in use than there are. -/
def free? (counts : List Nat) : Option Nat :=
  counts.foldlM (fun free n => if n ≤ 2 * free then some (2 * free - n) else none) 1

/-- Every sequence of bits begins with a code. -/
def isComplete (c : PrefixCode) : Bool := free? c.counts == some 0

/-- The code is complete, or has a single code of one bit, or none at all. -/
def isUsable (c : PrefixCode) : Bool :=
  match free? c.counts with
  | some free => free = 0 || c.counts.length ≤ 1
  | none => false

/-- The symbol of the bits to come. `code` are the bits read as a number, `first` is the first
code of this length, and `place` that of its symbol. -/
def nextFrom (symbols : Array Nat) (fault : Fault) (code first place : Nat) :
    List Nat → Reading Nat
  | [] => Reading.fail fault
  | count :: more => do
    let b ← Reading.bit
    let code := 2 * code + (if b then 1 else 0)
    let first := 2 * first
    if code < first + count then
      match symbols[place + (code - first)]? with
      | some n => return n
      | none => Reading.fail fault
    else nextFrom symbols fault code (first + count) (place + count) more

/-- The symbol of the bits to come. Bits that are no code are a fault, at least one of them being
read. -/
def next (c : PrefixCode) (fault : Fault) : Reading Nat :=
  nextFrom c.symbols fault 0 0 0 (if c.counts.isEmpty then [0] else c.counts)

/-- Each symbol takes two bits if there are four of that length. -/
example : (ofLengths [2, 2, 2, 2]).isComplete = true := by decide +kernel

/-- A single code of one bit leaves the other bit without a symbol. -/
example : (ofLengths [0, 1]).isUsable = true ∧ (ofLengths [0, 1]).isComplete = false := by
  decide +kernel

end PrefixCode
end Compression
end ToolGateway
