/-
# Reading characters from octets

Octets are read piece by piece: some octets in front are characters, or are broken, or are too few
to tell. What was read before may count for what comes. A broken piece gives the replacement
character, and so do the octets at the end that are too few.
-/

namespace ToolGateway
namespace Text

/-- What the octets in front are. -/
inductive Piece where
  | chars (cs : List Char) (used : Nat)
  | broken (used : Nat)
  | short
  /-- The octets ask for something that the encoding has no rule for. -/
  | refused
deriving DecidableEq, Repr

/-- How a reading ends. -/
inductive Ending where
  | complete
  | short (left : Nat)
  | refused
deriving DecidableEq, Repr

namespace Piece

variable {σ : Type}

/-- A piece with a single character. -/
def one (c : Char) (used : Nat) : Piece := chars [c] used

/-- A piece with the characters that are there, or a single broken octet. -/
def ofOption (cs : Option (List Char)) (used : Nat) : Piece :=
  match cs with
  | some cs => chars cs used
  | none => broken 1

/-- The piece in front where ASCII stands for itself and all else for codes of two octets. -/
def ofDouble (chars? : UInt8 → UInt8 → Option (List Char)) : List UInt8 → Piece
  | [] => .short
  | a :: rest =>
    if a < 0x80 then .one (Char.ofNat a.toNat) 1
    else
      match rest with
      | [] => .short
      | b :: _ => .ofOption (chars? a b) 2

/-- The piece in front where each code of two octets is one character. -/
def ofDoubleChar (char? : UInt8 → UInt8 → Option Char) : List UInt8 → Piece :=
  ofDouble fun a b => (char? a b).map fun c => [c]

/-- The characters of octets, none where they are broken, and how the reading ends. The fuel is the
number of octets, of which every piece uses at least one. -/
def readFrom (next : σ → List UInt8 → Piece × σ) : Nat → σ → List UInt8 →
    List (Option Char) × Ending
  | 0, _, _ => ([], .complete)
  | _ + 1, _, [] => ([], .complete)
  | fuel + 1, s, octets =>
    let (piece, s) := next s octets
    match piece with
    | chars cs used =>
      let (more, ending) := readFrom next fuel s (octets.drop used)
      (cs.map some ++ more, ending)
    | broken used =>
      let (more, ending) := readFrom next fuel s (octets.drop used)
      (none :: more, ending)
    | short => ([none], .short octets.length)
    | refused => ([], .refused)

/-- The characters of octets. -/
def readAll (next : List UInt8 → Piece) (octets : List UInt8) : List (Option Char) :=
  (readFrom (fun (_ : Unit) octets => (next octets, ())) octets.length () octets).1

end Piece
end Text
end ToolGateway
