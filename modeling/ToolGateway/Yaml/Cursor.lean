/-
# A place in a YAML text

A cursor is what is left of a text together with the place reached: the number of characters
passed, the line, and the column. Behind the end every character looked at is the end mark.
-/
import ToolGateway.Json.Reader

namespace ToolGateway

/-- A scalar of a document does not have the form that its tag asks for, or no character has the
number of an escape. -/
inductive ScalarFault where
  | badInteger (text : String) (base : Nat)
  | tooManyDigits (count : Nat)
  | badFloat (text : String)
  | badMoment (message : String)
  | unknownTruth (text : String)
  | noMoment
  /-- A date is asked of a mapping. -/
  | momentOfMapping
  /-- A part of a number in steps of sixty counts more than a float can hold. -/
  | tooLarge
  | emptyNumber
  | badCodePoint
  | hugeCodePoint
deriving DecidableEq, Repr

namespace Yaml

/-- Why a text gives no value: it is no YAML, a scalar has not the form of its tag, or collections
are nested too deeply. -/
inductive Fault where
  | malformed
  | scalar (fault : ScalarFault)
  | tooDeep
deriving DecidableEq, Repr

/-- A place in a text. -/
structure Cursor where
  rest : List Char
  index : Nat
  line : Nat
  column : Nat

/-- The mark that stands behind the end. -/
def endMark : Char := '\x00'

/-- The end mark or a line break. -/
def isBreakOrEnd (c : Char) : Bool :=
  c = endMark || c = '\r' || c = '\n' || c = '\x85' || c = '\u2028' || c = '\u2029'

/-- A line break. -/
def isBreak (c : Char) : Bool := c != endMark && isBreakOrEnd c

/-- A space, a line break or the end mark. -/
def isSpaceOrEnd (c : Char) : Bool := c = ' ' || isBreakOrEnd c

/-- A space, a tab, a line break or the end mark. -/
def isBlankOrEnd (c : Char) : Bool := c = '\t' || isSpaceOrEnd c

/-- Letters, digits, hyphen and underscore. -/
def isNameChar (c : Char) : Bool := c.isAlphanum || c = '-' || c = '_'

namespace Cursor

/-- The cursor at the front of a text. -/
def ofChars (cs : List Char) : Cursor := ⟨cs, 0, 0, 0⟩

/-- The character at a distance. -/
def peek (c : Cursor) (n : Nat) : Char := c.rest.getD n endMark

/-- The character at the cursor. -/
def here (c : Cursor) : Char := c.peek 0

/-- Moves over one character; a line break starts a line, and a byte order mark has no width. -/
def next (c : Cursor) : Cursor :=
  match c.rest with
  | [] => c
  | ch :: rest =>
    if ch = '\n' || ch = '\x85' || ch = '\u2028' || ch = '\u2029'
        || (ch = '\r' && rest.head? != some '\n') then
      ⟨rest, c.index + 1, c.line + 1, 0⟩
    else if ch = '\ufeff' then ⟨rest, c.index + 1, c.line, c.column⟩
    else ⟨rest, c.index + 1, c.line, c.column + 1⟩

/-- Moves over characters. -/
def forward (c : Cursor) : Nat → Cursor
  | 0 => c
  | n + 1 => c.next.forward n

/-- How many characters in front satisfy a test. -/
def count (c : Cursor) (p : Char → Bool) : Nat := (c.rest.takeWhile p).length

/-- The characters in front that satisfy a test, and the cursor behind them. -/
def span (c : Cursor) (p : Char → Bool) : List Char × Cursor :=
  let taken := c.rest.takeWhile p
  (taken, c.forward taken.length)

/-- Moves over the characters that satisfy a test. -/
def skip (c : Cursor) (p : Char → Bool) : Cursor := (c.span p).2

/-- Moves over a line break, if one is here, and gives the break as text. -/
def lineBreak (c : Cursor) : List Char × Cursor :=
  let ch := c.here
  if ch = '\r' && c.peek 1 = '\n' then (['\n'], c.forward 2)
  else if ch = '\r' || ch = '\n' || ch = '\x85' then (['\n'], c.next)
  else if ch = '\u2028' || ch = '\u2029' then ([ch], c.next)
  else ([], c)

/-- Three equal marks stand here and something blank behind them. -/
def isSeparator (c : Cursor) (mark : Char) : Bool :=
  c.here = mark && c.peek 1 = mark && c.peek 2 = mark && isBlankOrEnd (c.peek 3)

/-- A mark between documents stands here. -/
def atSeparator (c : Cursor) : Bool := c.isSeparator '-' || c.isSeparator '.'

/-- Moves over a comment. -/
def skipComment (c : Cursor) : Cursor :=
  if c.here = '#' then c.skip fun ch => !isBreakOrEnd ch else c

/-- Moves over the rest of a line that holds nothing but a comment. -/
def skipRestOfLine (c : Cursor) : Except Fault Cursor :=
  let c := (c.skip (· = ' ')).skipComment
  if isBreakOrEnd c.here then .ok c.lineBreak.2 else .error .malformed

end Cursor
end Yaml
end ToolGateway
