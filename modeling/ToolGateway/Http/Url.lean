/-
# Addresses

An address has a scheme, user information, a host, a port, a path, a query and a fragment. Reading
brings each part into one form: the scheme and the host in lower case, dots taken out of the path,
and what may not stand in a part percent-encoded.
-/
import ToolGateway.Decimal.Numeral
import ToolGateway.Http.HostName
import ToolGateway.Http.Percent
import ToolGateway.Http.Query
import ToolGateway.Text.Hexadecimal

namespace ToolGateway
namespace Http

/-- Why a text is no address. -/
inductive UrlFault where
  | tooLong
  | partTooLong (part : String)
  | unprintable (c : Char) (place : Nat)
  | badPort (port : String)
  | badIPv4 (host : String)
  | badIPv6 (host : String)
  | badHost (host : String)
  | pathWithoutSlash
  | relativeDoubleSlash
  | relativeColon
  /-- Without a scheme nothing can be kept for later requests. -/
  | withoutScheme (address : String)
deriving DecidableEq, Repr

/-- The fault in words. -/
def UrlFault.message : UrlFault → String
  | tooLong => "URL too long"
  | partTooLong part => "URL component '" ++ part ++ "' too long"
  | unprintable c place =>
    "Invalid non-printable ASCII character in URL, " ++ Text.quoted (String.singleton c)
      ++ " at position " ++ toString place ++ "."
  | badPort port => "Invalid port: " ++ Text.quoted port
  | badIPv4 host => "Invalid IPv4 address: " ++ Text.quoted host
  | badIPv6 host => "Invalid IPv6 address: " ++ Text.quoted host
  | badHost host => "Invalid IDNA hostname: " ++ Text.quoted host
  | pathWithoutSlash => "For absolute URLs, path must be empty or begin with '/'"
  | relativeDoubleSlash => "Relative URLs cannot have a path starting with '//'"
  | relativeColon => "Relative URLs cannot have a path starting with ':'"
  | withoutScheme address => "unknown url type: " ++ Text.quoted address

/-- An address, its parts in their one form. -/
structure Url where
  scheme : String
  userinfo : String
  host : String
  port : Option Int
  path : String
  query : Option String
  fragment : Option String
deriving DecidableEq, Repr

namespace Url

/-- The most characters that an address, or a part of one, may have. -/
def lengthLimit : Nat := 65536

/-! ## What may stand in a part -/

/-- Visible ASCII without the characters given. -/
def visibleBut (excluded : String) (c : Char) : Bool :=
  33 ≤ c.toNat && c.toNat < 127 && !excluded.toList.contains c

/-- The characters of a fragment. -/
def inFragment : Char → Bool := visibleBut "\"<>`"

/-- The characters of a query. -/
def inQuery : Char → Bool := visibleBut "\"#<>"

/-- The characters of a path. -/
def inPath : Char → Bool := visibleBut "\"#<>?`\x7b\x7d"

/-- The characters of user information. -/
def inUserinfo : Char → Bool := visibleBut "\"#<>?`\x7b\x7d/;=@[\\]^|"

/-- The characters of a host name. -/
def inHost (c : Char) : Bool :=
  isUnreserved c || "!$&'()*+,;=\"`\x7b\x7d%|\\".toList.contains c

/-! ## Hosts -/

/-- Four runs of digits with dots between them. -/
def looksDotted (cs : List Char) : Bool :=
  let parts := cs.splitOn '.'
  parts.length = 4 && parts.all fun p => !p.isEmpty && p.all Char.isDigit

/-- A number up to 255 without leading zeros. -/
def isOctetText (cs : List Char) : Bool :=
  !cs.isEmpty && cs.length ≤ 3 && cs.all Char.isDigit && (cs.length = 1 || cs.head? != some '0')
    && Json.digitsNumber cs ≤ 255

/-- An address of four numbers. -/
def isIPv4 (cs : List Char) : Bool :=
  let parts := cs.splitOn '.'
  parts.length = 4 && parts.all isOctetText

/-- A group of an address of eight groups. -/
def isGroupText (cs : List Char) : Bool :=
  cs.length ≤ 4 && !cs.isEmpty && cs.all fun c => (Text.hexValue? c).isSome

/-- The groups of an address, the last one being four numbers if it has a point. -/
def groups (cs : List Char) : Option (List (List Char)) :=
  let parts := cs.splitOn ':'
  if parts.length < 3 then none
  else
    match parts.getLast? with
    | some last =>
      if last.contains '.' then
        if isIPv4 last then some (parts.dropLast ++ [['0'], ['0']]) else none
      else some parts
    | none => none

/-- An address of eight groups, of which one run of empty ones may be left out. -/
def isIPv6 (cs : List Char) : Bool :=
  let (address, zone) := cs.span (· != '%')
  let zoneFine := zone.isEmpty || (1 < zone.length && !(zone.drop 1).contains '%')
  zoneFine && match groups address with
    | none => false
    | some parts =>
      let gaps := (parts.zipIdx.filter fun (p, i) =>
        p.isEmpty && 0 < i && i + 1 < parts.length).map Prod.snd
      if 9 < parts.length then false
      else
        match gaps with
        | [] => parts.length = 8 && parts.all isGroupText
        | [gap] =>
          let before := parts.take gap
          let after := parts.drop (gap + 1)
          let frontFine := before.head? != some [] || before.length = 1
          let backFine := after.getLast? != some [] || after.length = 1
          let kept := (if before.head? = some [] then [] else before)
            ++ (if after.getLast? = some [] then [] else after)
          frontFine && backFine && kept.length < 8 && kept.all isGroupText
        | _ => false

/-- A host in its one form; brackets are left out. -/
def encodeHost (host : String) : Except UrlFault String :=
  let cs := host.toList
  if cs.isEmpty then .ok ""
  else if looksDotted cs then if isIPv4 cs then .ok host else .error (.badIPv4 host)
  else if cs.head? = some '[' && cs.getLast? = some ']' && 1 < cs.length then
    let inner := (cs.drop 1).dropLast
    if isIPv6 inner then .ok (.ofList inner) else .error (.badIPv6 host)
  else if cs.all (·.toNat < 128) then .ok (percentEncode inHost (Text.asciiLower host))
  else
    match HostName.toAscii host with
    | .ok name => .ok name
    | .error _ => .error (.badHost host)

/-! ## Ports and paths -/

/-- The port that a scheme has without naming it. -/
def defaultPort? : String → Option Int
  | "ftp" => some 21
  | "http" => some 80
  | "https" => some 443
  | "ws" => some 80
  | "wss" => some 443
  | _ => none

/-- A port; none if it is empty or the scheme's own. -/
def readPort (port scheme : String) : Except UrlFault (Option Int) :=
  if port = "" then .ok none
  else
    match Numeral.integer port with
    | .error _ => .error (.badPort port)
    | .ok n => .ok (if defaultPort? scheme = some n then none else some n)

/-- Takes one part of a path after the parts before it, last first: a dot is left out, two dots
take away the part before. -/
def pushSegment (done : List (List Char)) (segment : List Char) : List (List Char) :=
  if segment = ['.'] then done
  else if segment = ['.', '.'] then (if done = [] ∨ done = [[]] then done else done.drop 1)
  else segment :: done

/-- A path without parts that are one or two dots. -/
def removeDots (path : String) : String :=
  let parts := path.toList.splitOn '/'
  "/".intercalate ((parts.foldl pushSegment []).reverse.map String.ofList)

/-! ## Reading -/

/-- The parts of a text, each as it stands. -/
structure Parts where
  scheme : String
  authority : String
  path : String
  query : Option String
  fragment : Option String

/-- A scheme at the front and the rest; the colon may also stand alone. -/
def splitScheme (cs : List Char) : String × List Char :=
  let named := cs.takeWhile fun c => c.isAlphanum || c = '+' || c = '.' || c = '-'
  let name := if (cs.head?.any Char.isAlpha) then named else []
  match cs.drop name.length with
  | ':' :: rest => (.ofList name, rest)
  | _ => ("", cs)

/-- The text up to a mark, and what is behind the mark if it is there. -/
def cutAt (p : Char → Bool) (cs : List Char) : List Char × Option (List Char) :=
  let (before, rest) := cs.span (!p ·)
  (before, if rest.isEmpty then none else some (rest.drop 1))

/-- The parts of a text. -/
def split (s : String) : Parts :=
  let (scheme, cs) := splitScheme s.toList
  let (cs, fragment) := cutAt (· = '#') cs
  let (cs, query) := cutAt (· = '?') cs
  let (authority, path) := match cs with
    | '/' :: '/' :: rest => rest.span (· != '/')
    | _ => ([], cs)
  ⟨scheme, .ofList authority, .ofList path, query.map .ofList, fragment.map .ofList⟩

/-- The user information, the host and the port of an authority. -/
def splitAuthority (authority : String) : String × String × String :=
  let cs := authority.toList
  let behind := (cs.reverse.takeWhile (· != '@')).reverse
  let userinfo := (cs.take (cs.length - behind.length)).dropLast
  let bracketed := (behind.reverse.dropWhile (· != ']')).reverse
  let host :=
    if behind.head? = some '[' && !bracketed.isEmpty then bracketed
    else behind.takeWhile (· != ':')
  let port := match behind.drop host.length with
    | ':' :: rest => rest
    | rest => rest
  (.ofList userinfo, .ofList host, .ofList port)

/-- Brings the parts into their one form. -/
def ofParts (p : Parts) : Except UrlFault Url := do
  let (userinfo, host, port) := splitAuthority p.authority
  let userinfo := percentEncode inUserinfo userinfo
  let host ← encodeHost host
  let port ← readPort port p.scheme
  let scheme := Text.asciiLower p.scheme
  let hasAuthority := userinfo ≠ "" || host ≠ "" || port.isSome
  if hasAuthority && p.path ≠ "" && !p.path.startsWith "/" then throw .pathWithoutSlash
  if scheme = "" && !hasAuthority then
    if p.path.startsWith "//" then throw .relativeDoubleSlash
    if p.path.startsWith ":" then throw .relativeColon
  let path := if scheme ≠ "" || hasAuthority then removeDots p.path else p.path
  return {
    scheme, userinfo, host, port
    path := percentEncode inPath path
    query := p.query.map (percentEncode inQuery)
    fragment := p.fragment.map (percentEncode inFragment) }

/-- The address that a text stands for. -/
def parse (s : String) : Except UrlFault Url :=
  let cs := s.toList
  if lengthLimit < cs.length then .error .tooLong
  else
    match cs.zipIdx.find? fun (c, _) => c.toNat < 32 || c.toNat = 127 with
    | some (c, i) => .error (.unprintable c i)
    | none => ofParts (split s)

/-! ## Writing -/

/-- User information, host and port. -/
def authority (u : Url) : String :=
  (if u.userinfo = "" then "" else u.userinfo ++ "@")
    ++ (if u.host.toList.contains ':' then "[" ++ u.host ++ "]" else u.host)
    ++ (match u.port with
        | some n => ":" ++ toString n
        | none => "")

/-- The host and the port. -/
def hostAndPort (u : Url) : String := { u with userinfo := "" }.authority

/-- The text of an address. -/
def text (u : Url) : String :=
  (if u.scheme = "" then "" else u.scheme ++ ":")
    ++ (if u.authority = "" then "" else "//" ++ u.authority)
    ++ u.path
    ++ (match u.query with
        | some q => "?" ++ q
        | none => "")
    ++ (match u.fragment with
        | some f => "#" ++ f
        | none => "")

/-- The parts of an address as they would be written. -/
def parts (u : Url) : Parts := ⟨u.scheme, u.authority, u.path, u.query, u.fragment⟩

/-- The address with another query. -/
def withQuery (u : Url) (query : String) : Except UrlFault Url :=
  if lengthLimit < query.length then .error (.partTooLong "query")
  else ofParts { u.parts with query := some query }

/-- A scheme and a host are there. -/
def isAbsolute (u : Url) : Bool := u.scheme ≠ "" && u.host ≠ ""

/-- An address without a scheme or a host stands for its path alone, taken from the root. -/
def rooted (u : Url) : Except UrlFault Url :=
  if u.isAbsolute then .ok u
  else
    let path := "/" ++ String.ofList (u.path.toList.dropWhile (· = '/'))
    ofParts ⟨"", "", path, u.query, none⟩

/-- The user name and the password in the user information, percent codes undone. -/
def credentials? (u : Url) : Option (String × String) :=
  if u.userinfo = "" then none
  else
    let (name, password) := cutAt (· = ':') u.userinfo.toList
    some (Percent.text name, Percent.text (password.getD []))

example : removeDots "/a/./b/../c" = "/a/c" := by decide +kernel

end Url
end Http
end ToolGateway
