/-
# UTF-8

Decoding goes one character at a time. Octets that begin no character are a fault with a reason
and a length: the caller may refuse the text at the first fault, or put a replacement character for
each one.
-/

namespace ToolGateway
namespace Text

/-- Why octets are not UTF-8. -/
inductive Utf8Reason where
  | invalidStart
  | invalidContinuation
  | unexpectedEnd
deriving DecidableEq, Repr

/-- The reason in words. -/
def Utf8Reason.message : Utf8Reason → String
  | invalidStart => "invalid start byte"
  | invalidContinuation => "invalid continuation byte"
  | unexpectedEnd => "unexpected end of data"

/-- Octets that are not UTF-8: the first of them, their place, their number and the reason. -/
structure Utf8Fault where
  octet : UInt8
  start : Nat
  length : Nat
  reason : Utf8Reason
deriving DecidableEq, Repr

/-- What stands at the front of octets. -/
inductive Utf8Step where
  | char (c : Char) (length : Nat)
  | fault (length : Nat) (reason : Utf8Reason)

/-- An octet that continues a character. -/
def isContinuation (b : UInt8) : Bool := 0x80 ≤ b && b < 0xC0

/-- The six payload bits of a continuation octet. -/
def payload (b : UInt8) : Nat := b.toNat % 64

/-- The second octet `b` may follow the first octet `a`: continuations aside, overlong forms,
surrogates and code points beyond the last are excluded here. -/
def mayFollow (a b : UInt8) : Bool :=
  isContinuation b
    && !(a == 0xE0 && b < 0xA0) && !(a == 0xED && 0xA0 ≤ b)
    && !(a == 0xF0 && b < 0x90) && !(a == 0xF4 && 0x90 ≤ b)

/-- The character or the fault at the front; `all` is the number of octets left, `a` included. -/
def utf8Step (a : UInt8) (rest : List UInt8) : Utf8Step :=
  let all := rest.length + 1
  let end_ : Utf8Step := .fault all .unexpectedEnd
  if a < 0x80 then .char (Char.ofNat a.toNat) 1
  else if a < 0xC2 then .fault 1 .invalidStart
  else if a < 0xE0 then
    match rest with
    | [] => end_
    | b :: _ =>
      if !isContinuation b then .fault 1 .invalidContinuation
      else .char (Char.ofNat (a.toNat % 32 * 64 + payload b)) 2
  else if a < 0xF0 then
    match rest with
    | [] => end_
    | b :: rest =>
      if !mayFollow a b then .fault 1 .invalidContinuation
      else
        match rest with
        | [] => end_
        | c :: _ =>
          if !isContinuation c then .fault 2 .invalidContinuation
          else .char (Char.ofNat (a.toNat % 16 * 4096 + payload b * 64 + payload c)) 3
  else if a < 0xF5 then
    match rest with
    | [] => end_
    | b :: rest =>
      if !mayFollow a b then .fault 1 .invalidContinuation
      else
        match rest with
        | [] => end_
        | c :: rest =>
          if !isContinuation c then .fault 2 .invalidContinuation
          else
            match rest with
            | [] => end_
            | d :: _ =>
              if !isContinuation d then .fault 3 .invalidContinuation
              else
                .char (Char.ofNat
                  (a.toNat % 8 * 262144 + payload b * 4096 + payload c * 64 + payload d)) 4
  else .fault 1 .invalidStart

/-- Decodes from the octet at place `at_` on; `skip` octets belong to what was decoded last. At a
fault, `onFault` gives a character to put or stops. -/
def decodeUtf8From (onFault : Utf8Fault → Except Utf8Fault Char) (place : Nat) (skip : Nat) :
    List UInt8 → Except Utf8Fault (List Char)
  | [] => .ok []
  | a :: rest =>
    match skip with
    | skip + 1 => decodeUtf8From onFault (place + 1) skip rest
    | 0 =>
      match utf8Step a rest with
      | .char c n => do
        let cs ← decodeUtf8From onFault (place + 1) (n - 1) rest
        return c :: cs
      | .fault n reason => do
        let c ← onFault ⟨a, place, n, reason⟩
        let cs ← decodeUtf8From onFault (place + 1) (n - 1) rest
        return c :: cs

/-- The text of octets, or the first fault. -/
def decodeUtf8 (octets : List UInt8) : Except Utf8Fault String :=
  (decodeUtf8From .error 0 0 octets).map String.ofList

/-- The text of octets with a replacement character for each fault. -/
def decodeUtf8Replacing (octets : List UInt8) : String :=
  match decodeUtf8From (fun _ => .ok '\ufffd') 0 0 octets with
  | .ok cs => .ofList cs
  | .error _ => ""

/-- The octets of a text. -/
def encodeUtf8 (s : String) : List UInt8 := s.toUTF8.toList

/-- The fault in words. -/
def Utf8Fault.message (f : Utf8Fault) : String :=
  let octet := "0x" ++ .ofList
    (let h := Nat.toDigits 16 f.octet.toNat; List.replicate (2 - h.length) '0' ++ h)
  let place :=
    if f.length = 1 then "byte " ++ octet ++ " in position " ++ toString f.start
    else "bytes in position " ++ toString f.start ++ "-" ++ toString (f.start + f.length - 1)
  "'utf-8' codec can't decode " ++ place ++ ": " ++ f.reason.message

end Text
end ToolGateway
