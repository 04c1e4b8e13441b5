/-
# Locators

The name of a resource is a locator: an address with a scheme. It is read more leniently than an
address that a request is sent to. Blanks around it and breaks inside it do not count. The schemes
of the web need a host, which is a name, four numbers or groups in brackets; with other schemes the
host may be missing, and what is no host but a path may hold anything.
-/
import ToolGateway.Http.Url

namespace ToolGateway
namespace Http
namespace Locator

/-- How a scheme treats its host. -/
inductive Manner where
  /-- The host must be there. -/
  | web
  /-- The host may be missing. -/
  | file
  /-- The host is any text. -/
  | free
deriving DecidableEq

/-- The manner of a scheme. -/
def Manner.ofScheme (scheme : String) : Manner :=
  if scheme = "file" then .file
  else if (Url.defaultPort? scheme).isSome then .web
  else .free

/-! ## Hosts -/

/-- A number of an address of four numbers: in base 16 behind `0x`, in base 8 behind another zero,
else in base 10. -/
def number? (cs : List Char) : Option Nat :=
  let inBase (base : Nat) (digits : List Char) : Option Nat :=
    digits.foldlM (fun n c =>
      (Text.hexValue? c).bind fun d => if d < base then some (base * n + d) else none) 0
  match cs with
  | [] => none
  | '0' :: 'x' :: rest | '0' :: 'X' :: rest => inBase 16 rest
  | '0' :: rest => inBase 8 rest
  | cs => inBase 10 cs

/-- The parts between dots; nothing stands behind a dot at the end. -/
def dottedParts (host : List Char) : List (List Char) :=
  let parts := host.splitOn '.'
  if parts.getLast? = some [] then parts.dropLast else parts

/-- The last part of the host is a number, so that all parts have to be. -/
def endsInNumber (host : List Char) : Bool :=
  (dottedParts host).getLast?.any fun p =>
    !p.isEmpty && (p.all Char.isDigit || (number? p).isSome)

/-- Up to four numbers: all but the last one are octets, and the last one fills the rest of a word
of 32 bits. -/
def isNumeric (host : List Char) : Bool :=
  let parts := dottedParts host
  parts.length ≤ 4 && match parts.mapM number? with
    | none => false
    | some numbers =>
      numbers.dropLast.all (· ≤ 255)
        && numbers.getLast?.all fun n => n < Nat.pow 256 (5 - numbers.length)

/-- Groups in brackets, without the name of a zone. -/
def isBracketed (host : List Char) : Bool :=
  1 < host.length && host.getLast? = some ']'
    && !host.contains '%' && Url.isIPv6 (host.drop 1).dropLast

/-- A character that stands in no host. -/
def isBarred (c : Char) : Bool := c = '\x00' || "\t\n\r #/:<>?@[\\]^|".toList.contains c

/-- A character that stands in no host name. -/
def isBarredInName (c : Char) : Bool := isBarred c || c.toNat < 32 || c = '%' || c = '\x7f'

/-- A character of a host name: printable, and no sign that octets could not be read. -/
def mayStandInName (c : Char) : Bool :=
  !isBarredInName c && (c.toNat < 128 || Text.isPrintable c) && c ≠ '\ufffd'

/-- A host name, percent codes undone. -/
def isName (host : List Char) : Bool :=
  !host.isEmpty && host.all mayStandInName
    && (HostName.check (Text.asciiLower (.ofList host))).toBool

/-- A host of the web. -/
def isHost (host : List Char) : Bool :=
  if host.head? = some '[' then isBracketed host
  else
    let name := (Percent.text host).toList
    isName name && (!endsInNumber name || isNumeric name)

/-- Any text as a host. -/
def isFreeHost (host : List Char) : Bool :=
  if host.head? = some '[' then isBracketed host else !host.any isBarred

/-! ## Authorities -/

/-- A character that ends the part with the host. -/
def endsAuthority (manner : Manner) (c : Char) : Bool :=
  c = '/' || c = '?' || c = '#' || (c = '\\' && manner ≠ .free)

/-- The host up to a colon that is not between brackets. -/
def hostFront (inside : Bool) : List Char → List Char
  | [] => []
  | c :: rest =>
    if c = ':' && !inside then []
    else c :: hostFront (if c = '[' then true else if c = ']' then false else inside) rest

/-- A port up to the greatest one. -/
def isPort (cs : List Char) : Bool := cs.all Char.isDigit && Json.digitsNumber cs < 65536

/-- The part with the host: user information up to the last at sign, the host and a port. -/
def isAuthority (manner : Manner) (cs : List Char) : Bool :=
  let behind := (cs.reverse.takeWhile (· != '@')).reverse
  let host := hostFront false behind
  let port := behind.drop host.length
  isPort (port.drop 1)
    && if host.isEmpty then manner ≠ .web && behind.length = cs.length && port.isEmpty
      else if manner = .free then isFreeHost host
      else isHost host

/-- A letter and a colon, or a bar in its place: the name of a drive, and no host. -/
def isDrive : List Char → Bool
  | [c, m] => c.isAlpha && (m = ':' || m = '|')
  | _ => false

/-! ## Locators -/

/-- The text without blanks and control characters around it and without breaks. -/
def plain (s : String) : List Char :=
  let isMargin (c : Char) : Bool := c.toNat ≤ 32
  let core := ((s.toList.dropWhile isMargin).reverse.dropWhile isMargin).reverse
  core.filter fun c => c ≠ '\t' && c ≠ '\n' && c ≠ '\r'

/-- What stands behind the scheme of a file fits: a host between two slashes and the path. -/
def isFileRest (cs : List Char) : Bool :=
  let isSlash (c : Char) : Bool := c = '/' || c = '\\'
  match cs with
  | a :: b :: rest =>
    if isSlash a && isSlash b then
      let host := rest.takeWhile (!endsAuthority .file ·)
      host.isEmpty || isDrive host || isHost host
    else true
  | _ => true

/-- What stands behind a scheme fits it. -/
def fits (manner : Manner) (cs : List Char) : Bool :=
  match manner with
  | .file => isFileRest cs
  | .web =>
    let rest := cs.dropWhile fun c => c = '/' || c = '\\'
    isAuthority .web (rest.takeWhile (!endsAuthority .web ·))
  | .free =>
    match cs with
    | '/' :: '/' :: rest => isAuthority .free (rest.takeWhile (!endsAuthority .free ·))
    | _ => true

end Locator

/-- The text is a locator. -/
def isLocator (s : String) : Bool :=
  let (scheme, rest) := Url.splitScheme (Locator.plain s)
  scheme ≠ "" && Locator.fits (.ofScheme (Text.asciiLower scheme)) rest

example : isLocator "http://h" = true := by decide +kernel
example : isLocator "nope" = false := by decide +kernel
example : isLocator "http://" = false := by decide +kernel
example : isLocator "urn:x" = true := by decide +kernel

end Http
end ToolGateway
