/-
# Host names outside ASCII

A host name is a chain of labels with dots between them. A label with characters outside ASCII is
sent as a code in ASCII. A name in ASCII whose first label is such a code is read back before it
is used, and all its labels are checked.
-/
import ToolGateway.Http.HostName.Label
import ToolGateway.Text.LetterCase

namespace ToolGateway
namespace Http
namespace HostName

/-- A dot between labels. -/
def isDot (c : Char) : Bool := c = '.' || c = '\u3002' || c = '\uff0e' || c = '\uff61'

/-- The most characters of a name without a dot at its end. -/
def lengthLimit : Nat := 253

/-- The labels of a name, and whether a dot is at its end. -/
def labels (name : List Char) : Except NameFault (List (List Char) × Bool) :=
  if lengthLimit + 1 < name.length then .error .nameTooLong
  else
    let ls := name.splitOnP isDot
    if ls = [[]] then .error .emptyName
    else if ls.getLast? = some [] then .ok (ls.dropLast, true)
    else .ok (ls, false)

/-- A host name in ASCII and in lower case, if all its labels may stand in one; a dot at the end
is kept. -/
def toAscii (name : String) : Except NameFault String := do
  let (ls, dotted) ← labels (Text.lower name).toList
  let out ← ls.mapM Label.toAscii
  let joined := ".".intercalate (out.map String.ofList)
  if lengthLimit < joined.length then throw .nameTooLong
  return if dotted then joined ++ "." else joined

/-- The name begins with a code, so that it has to be read back. -/
def isCoded (name : String) : Bool := Label.codeMark.isPrefixOf name.toList

/-- The labels of a name that begins with a code may stand in a name. -/
def check (name : String) : Except NameFault Unit :=
  if isCoded name then do
    let (ls, _) ← labels name.toList
    ls.forM Label.checkAscii
  else .ok ()

end HostName
end Http
end ToolGateway
