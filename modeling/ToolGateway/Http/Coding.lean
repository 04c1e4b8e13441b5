/-
# Codings of bodies

A body may be compressed, more than once even. A header names the codings in the order in which
they were made, so they are undone from the last one on. Codings that are not known are left as
they are.
-/
import ToolGateway.Compression.Stream
import ToolGateway.Http.Message

namespace ToolGateway
namespace Http

/-- The codings that are undone. -/
inductive Coding where
  | gzip
  | deflate
deriving DecidableEq, Repr

namespace Coding

/-- The coding with a name. -/
def named? : String → Option Coding
  | "gzip" => some gzip
  | "deflate" => some deflate
  | _ => none

/-- The codings that a header names. -/
def ofHeader (h : String) : List Coding :=
  (h.toList.splitOn ',').filterMap fun part =>
    named? (Text.asciiLower (.ofList (Text.trim part)))

/-- Undoes a coding. Of the second one there are two forms: with a frame, or else without. -/
def undo (c : Coding) (octets : List UInt8) : Except Compression.Fault (List UInt8) :=
  match c with
  | gzip => Compression.Frame.gzip.content octets
  | deflate =>
    match Compression.Frame.zlib.content octets with
    | .ok content => .ok content
    | .error _ => Compression.Frame.none.content octets

/-- The plain octets of a body with codings. -/
def plain (codings : List Coding) (body : List UInt8) :
    Except Compression.Fault (List UInt8) :=
  codings.reverse.foldlM (fun octets c => c.undo octets) body

end Coding

/-- The codings of a body. -/
def Response.codings (r : Response) : List Coding :=
  match r.header? "content-encoding" with
  | some h => Coding.ofHeader h
  | none => []

/-- The response with its body in plain octets. -/
def Response.plain (r : Response) : Except Compression.Fault Response := do
  let body ← Coding.plain r.codings r.body
  return { r with body }

end Http
end ToolGateway
