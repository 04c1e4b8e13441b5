/-
# Places

A message is sent to a place on the server: to the one where messages are taken, to a page that can
only be read, or to none. A place is named by an address of which only the path counts.
-/
import ToolGateway.Http.Client

namespace ToolGateway
namespace Server

/-- A place on the server. -/
inductive Place where
  /-- Messages are taken here. -/
  | messages
  /-- A page that can only be read. -/
  | page
  /-- The place is elsewhere, and named without the slashes at its end. -/
  | moved
  | nowhere
deriving DecidableEq, Repr

namespace Place

/-- The path at which messages are taken. -/
def messagePath : String := "/mcp"

/-- The paths of pages about the server. -/
def pagePaths : List String := ["/openapi.json", "/docs", "/docs/oauth2-redirect", "/redoc"]

/-- A path is taken for another one also if a break stands at its end. -/
def sameAs (path : String) (name : String) : Bool := path = name || path = name ++ "\n"

/-- The place of a path that has to be named as it is. -/
def exactly (path : String) : Place :=
  if sameAs path messagePath then .messages
  else if pagePaths.any (sameAs path) then .page
  else .nowhere

/-- The place of a path. -/
def ofPath (path : String) : Place :=
  match exactly path with
  | .nowhere =>
    let cs := path.toList
    let bare := String.ofList (cs.reverse.dropWhile (· = '/')).reverse
    if cs.getLast? = some '/' && exactly bare ≠ .nowhere then .moved else .nowhere
  | place => place

/-- The path of an address, percent codes undone. An address without a scheme or a host is taken
from the root of the server. -/
def pathOf (address : String) : Except Failure String := do
  let u ← (Http.Url.parse address).mapError .address
  let u ← (if u.isAbsolute then .ok u
    else Http.Url.ofParts
      ⟨"http", "server", "/" ++ .ofList (u.path.toList.dropWhile (· = '/')), u.query, none⟩
    ).mapError .address
  Http.Draft.checkHost u []
  return Http.Percent.text u.path.toList

end Place
end Server
end ToolGateway
