/-
# The text of scalars

How plain, quoted and block scalars are read: which line breaks are folded into spaces, which are
kept, and what the escapes stand for.
-/
import ToolGateway.Text.Hexadecimal
import ToolGateway.Text.Utf8
import ToolGateway.Yaml.Cursor

namespace ToolGateway
namespace Yaml

/-! ## Quoted scalars -/

/-- What the letter behind a backslash stands for. -/
def simpleEscape? : Char → Option Char
  | '0' => some '\x00'
  | 'a' => some '\x07'
  | 'b' => some '\x08'
  | 't' => some '\t'
  | '\t' => some '\t'
  | 'n' => some '\n'
  | 'v' => some '\x0b'
  | 'f' => some '\x0c'
  | 'r' => some '\r'
  | 'e' => some '\x1b'
  | ' ' => some ' '
  | '"' => some '"'
  | '\\' => some '\\'
  | '/' => some '/'
  | 'N' => some '\x85'
  | '_' => some '\xa0'
  | 'L' => some '\u2028'
  | 'P' => some '\u2029'
  | _ => none

/-- How many hexadecimal digits follow a letter behind a backslash. -/
def escapeWidth? : Char → Option Nat
  | 'x' => some 2
  | 'u' => some 4
  | 'U' => some 8
  | _ => none

/-- The character with a number. -/
def codePoint (n : Nat) : Except Fault Char :=
  if 0x80000000 ≤ n then .error (.scalar .hugeCodePoint)
  else if 0x110000 ≤ n then .error (.scalar .badCodePoint)
  else .ok (Json.unitChar n)

/-- The character of a high unit and of an escape of a low unit at the cursor. -/
def pairedEscape? (high : Nat) (c : Cursor) : Option (Char × Cursor) :=
  match c.rest with
  | '\\' :: 'u' :: rest =>
    match Text.hexNumber? (rest.take 4) with
    | some low =>
      if 4 ≤ rest.length ∧ Json.isHighUnit high ∧ Json.isLowUnit low then
        some (Json.pairChar high low, c.forward 6)
      else none
    | none => none
  | _ => none

/-- The character of a numbered escape; the cursor stands at the first digit. Two escapes that form
a pair are one character. -/
def numberedEscape (c : Cursor) (width : Nat) : Except Fault (Char × Cursor) :=
  let digits := c.rest.take width
  if digits.length < width then .error .malformed
  else
    match Text.hexNumber? digits with
    | none => .error .malformed
    | some n =>
      match pairedEscape? n (c.forward width) with
      | some found => .ok found
      | none => (codePoint n).map fun ch => (ch, c.forward width)

/-- The empty lines behind a line break in a quoted scalar. -/
def quotedBreaks : Nat → Cursor → Except Fault (List Char × Cursor)
  | 0, c => .ok ([], c)
  | fuel + 1, c =>
    if c.atSeparator then .error .malformed
    else
      let c := c.skip fun ch => ch = ' ' || ch = '\t'
      if isBreak c.here then do
        let (b, c) := c.lineBreak
        let (bs, c) ← quotedBreaks fuel c
        return (b ++ bs, c)
      else .ok ([], c)

/-- A character that stands for itself in a quoted scalar. -/
def isQuotedPlain (ch : Char) : Bool :=
  !(ch = '\'' || ch = '"' || ch = '\\' || isBlankOrEnd ch)

/-- The text up to a blank or the closing quote. -/
def quotedWord (double : Bool) : Nat → Cursor → Except Fault (List Char × Cursor)
  | 0, c => .ok ([], c)
  | fuel + 1, c =>
    let (run, c) := c.span isQuotedPlain
    let ch := c.here
    let more (out : List Char) (c : Cursor) : Except Fault (List Char × Cursor) := do
      let (cs, c) ← quotedWord double fuel c
      return (run ++ out ++ cs, c)
    if !double && ch = '\'' && c.peek 1 = '\'' then more ['\''] (c.forward 2)
    else if (double && ch = '\'') || (!double && (ch = '"' || ch = '\\')) then more [ch] c.next
    else if double && ch = '\\' then
      let c := c.next
      let e := c.here
      match simpleEscape? e, escapeWidth? e with
      | some out, _ => more [out] c.next
      | none, some width => do
        let (out, c) ← numberedEscape c.next width
        more [out] c
      | none, none =>
        if isBreak e then do
          let (_, c) := c.lineBreak
          let (bs, c) ← quotedBreaks c.rest.length.succ c
          more bs c
        else .error .malformed
    else .ok (run, c)

/-- The blanks between two words: a single line break is a space. -/
def quotedBlanks (c : Cursor) : Except Fault (List Char × Cursor) := do
  let (blanks, c) := c.span fun ch => ch = ' ' || ch = '\t'
  if c.rest.isEmpty then .error .malformed
  else if isBreak c.here then
    let (b, c) := c.lineBreak
    let (bs, c) ← quotedBreaks c.rest.length.succ c
    let folded := if b ≠ ['\n'] then b else if bs.isEmpty then [' '] else []
    return (folded ++ bs, c)
  else return (blanks, c)

/-- The words and blanks up to the closing quote. -/
def quotedRest (double : Bool) (quote : Char) : Nat → Cursor → Except Fault (List Char × Cursor)
  | 0, _ => .error .malformed
  | fuel + 1, c =>
    if c.here = quote then .ok ([], c.next)
    else do
      let (blanks, c) ← quotedBlanks c
      let (word, c) ← quotedWord double c.rest.length.succ c
      let (cs, c) ← quotedRest double quote fuel c
      return (blanks ++ word ++ cs, c)

/-- A quoted scalar; the cursor stands at its opening quote. -/
def quotedScalar (c : Cursor) : Except Fault (String × Cursor) := do
  let quote := c.here
  let double := quote = '"'
  let c := c.next
  let (word, c) ← quotedWord double c.rest.length.succ c
  let (cs, c) ← quotedRest double quote c.rest.length.succ c
  return (.ofList (word ++ cs), c)

/-! ## Plain scalars -/

/-- What ends a run of a plain scalar. -/
def endsPlain (flow : Bool) (ch after : Char) : Bool :=
  isBlankOrEnd ch
    || (ch = ':' && (isBlankOrEnd after || (flow && ",[]\x7b\x7d".toList.contains after)))
    || (flow && ",?[]\x7b\x7d".toList.contains ch)

/-- The characters of a run. -/
def plainRun (flow : Bool) : List Char → List Char
  | [] => []
  | ch :: rest =>
    if endsPlain flow ch (rest.headD endMark) then [] else ch :: plainRun flow rest

/-- The empty lines behind a line break; none if a mark between documents follows. -/
def plainBreaks : Nat → Cursor → Option (List Char) × Cursor
  | 0, c => (some [], c)
  | fuel + 1, c =>
    let c := c.skip (· = ' ')
    if isBreak c.here then
      let (b, c) := c.lineBreak
      if c.atSeparator then (none, c)
      else
        let (bs, c) := plainBreaks fuel c
        (bs.map (b ++ ·), c)
    else (some [], c)

/-- The blanks behind a run, whether a line break was among them, and the cursor behind them. No
blanks end the scalar. -/
def plainBlanks (c : Cursor) : List Char × Bool × Cursor :=
  let (blanks, c) := c.span (· = ' ')
  if isBreak c.here then
    let (b, c) := c.lineBreak
    if c.atSeparator then ([], true, c)
    else
      match plainBreaks c.rest.length.succ c with
      | (none, c) => ([], true, c)
      | (some bs, c) =>
        ((if b ≠ ['\n'] then b else if bs.isEmpty then [' '] else []) ++ bs, true, c)
  else (blanks, false, c)

/-- The runs of a plain scalar; `blanks` stand before the next one. The second part says whether a
line break was passed behind the last run. -/
def plainRuns (flow : Bool) (indent : Int) : Nat → List Char → Bool → Cursor →
    List Char × Bool × Cursor
  | 0, _, broken, c => ([], broken, c)
  | fuel + 1, blanks, broken, c =>
    if c.here = '#' then ([], broken, c)
    else
      let run := plainRun flow c.rest
      if run.isEmpty then ([], broken, c)
      else
        let (after, broken, c) := plainBlanks (c.forward run.length)
        if after.isEmpty || c.here = '#' || (!flow && (c.column : Int) < indent) then
          (blanks ++ run, broken, c)
        else
          let (cs, broken, c) := plainRuns flow indent fuel after broken c
          (blanks ++ run ++ cs, broken, c)

/-! ## Block scalars -/

/-- What is done with the line breaks at the end of a block scalar. -/
inductive Chomp where
  | clip
  | strip
  | keep
deriving DecidableEq, Repr

/-- A mark for the line breaks at the end. -/
def chompMark? : Char → Option Chomp
  | '+' => some .keep
  | '-' => some .strip
  | _ => none

/-- A digit for the indentation; zero is refused. -/
def indentMark? (c : Cursor) : Except Fault (Option Nat × Cursor) :=
  if c.here = '0' then .error .malformed
  else if c.here.isDigit then .ok (some (c.here.toNat - 48), c.next)
  else .ok (none, c)

/-- The marks behind the opening of a block scalar, in either order. -/
def blockMarks (c : Cursor) : Except Fault (Chomp × Option Nat × Cursor) := do
  let (chomp, increment, c) ← match chompMark? c.here with
    | some chomp => do
      let (increment, c) ← indentMark? c.next
      pure (chomp, increment, c)
    | none => do
      let (increment, c) ← indentMark? c
      match increment, chompMark? c.here with
      | some _, some chomp => pure (chomp, increment, c.next)
      | _, _ => pure (Chomp.clip, increment, c)
  if isSpaceOrEnd c.here then return (chomp, increment, c) else .error .malformed

/-- The empty lines in front of a block scalar and the widest indentation among them. -/
def blockFront : Nat → Nat → Cursor → List (List Char) × Nat × Cursor
  | 0, widest, c => ([], widest, c)
  | fuel + 1, widest, c =>
    if c.here = ' ' then
      let c := c.next
      blockFront fuel (max widest c.column) c
    else if isBreak c.here then
      let (b, c) := c.lineBreak
      let (bs, widest, c) := blockFront fuel widest c
      (b :: bs, widest, c)
    else ([], widest, c)

/-- Moves over spaces up to a column. -/
def skipToColumn (column : Nat) : Nat → Cursor → Cursor
  | 0, c => c
  | fuel + 1, c =>
    if c.column < column && c.here = ' ' then skipToColumn column fuel c.next else c

/-- The empty lines between the lines of a block scalar. -/
def blockBreaks (indent : Nat) : Nat → Cursor → List (List Char) × Cursor
  | 0, c => ([], c)
  | fuel + 1, c =>
    let c := skipToColumn indent indent c
    if isBreak c.here then
      let (b, c) := c.lineBreak
      let (bs, c) := blockBreaks indent fuel c
      (b :: bs, c)
    else ([], c)

/-- The lines of a block scalar. `breaks` are the empty lines before the next line, `last` is the
line break behind the last one. -/
def blockLines (folded : Bool) (indent : Nat) (chomp : Chomp) :
    Nat → List (List Char) → List Char → Cursor → List Char × Cursor
  | 0, _, _, c => ([], c)
  | fuel + 1, breaks, last, c =>
    let finish (last : List Char) (breaks : List (List Char)) : List Char :=
      (if chomp = .strip then [] else last) ++ (if chomp = .keep then breaks.flatten else [])
    if c.column = indent && !c.rest.isEmpty then
      let indented := c.here = ' ' || c.here = '\t'
      let (line, c) := c.span fun ch => !isBreakOrEnd ch
      let (b, c) := c.lineBreak
      let (next, c) := blockBreaks indent c.rest.length.succ c
      if c.column = indent && !c.rest.isEmpty then
        let join :=
          if folded && b = ['\n'] && !indented && !(c.here = ' ' || c.here = '\t') then
            (if next.isEmpty then [' '] else [])
          else b
        let (cs, c) := blockLines folded indent chomp fuel next b c
        (breaks.flatten ++ line ++ join ++ cs, c)
      else (breaks.flatten ++ line ++ finish b next, c)
    else (finish last breaks, c)

/-- A block scalar; the cursor stands at its opening, `indent` is the indentation around it. -/
def blockScalar (folded : Bool) (indent : Int) (c : Cursor) : Except Fault (String × Cursor) := do
  let (chomp, increment, c) ← blockMarks c.next
  let c ← c.skipRestOfLine
  let least := (max (indent + 1) 1).toNat
  let (breaks, width, c) := match increment with
    | none =>
      let (bs, widest, c) := blockFront c.rest.length.succ 0 c
      (bs, max least widest, c)
    | some n =>
      let width := least + n - 1
      let (bs, c) := blockBreaks width c.rest.length.succ c
      (bs, width, c)
  let (cs, c) := blockLines folded width chomp c.rest.length.succ breaks [] c
  return (.ofList cs, c)

end Yaml
end ToolGateway
