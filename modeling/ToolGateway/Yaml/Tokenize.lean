/-
# The tokens of a text

Tokens are found from left to right. The indentation of a line opens and closes blocks. A scalar, a
bracket or an anchor may turn out to be the key of a mapping only when the colon behind it is found:
until then its place among the tokens is remembered, and the colon puts the key mark there.
-/
import ToolGateway.Text.Hexadecimal
import ToolGateway.Yaml.Scalar
import ToolGateway.Yaml.Token

namespace ToolGateway
namespace Yaml

/-- The place of a token that may turn out to be a key. It must do so if it stands where only a
key may stand. -/
structure PossibleKey where
  place : Nat
  required : Bool
  index : Nat
  line : Nat
  column : Nat

/-- Where the finding of tokens stands. -/
structure Lexer where
  cursor : Cursor
  tokens : Array Token
  /-- How many brackets are open. -/
  flow : Int
  /-- The column of the innermost block, and those of the blocks around it. -/
  indent : Int
  outer : List Int
  /-- A key may begin here. -/
  keyAllowed : Bool
  /-- The possible key of each level of brackets. -/
  keys : List (Int × PossibleKey)

namespace Lexer

/-- The state at the front of a text. -/
def ofChars (cs : List Char) : Lexer := ⟨.ofChars cs, #[], 0, -1, [], true, []⟩

/-- The column of the cursor. -/
def column (l : Lexer) : Int := l.cursor.column

/-- No bracket is open. -/
def inBlock (l : Lexer) : Bool := l.flow == 0

/-- Adds a token. -/
def push (l : Lexer) (t : Token) : Lexer := { l with tokens := l.tokens.push t }

/-- Adds a token and moves over its characters. -/
def pushOver (l : Lexer) (t : Token) (width : Nat) : Lexer :=
  { l.push t with cursor := l.cursor.forward width }

/-- Puts a token at a place. -/
def insert (l : Lexer) (place : Nat) (t : Token) : Lexer :=
  { l with tokens := l.tokens.insertIdxIfInBounds place t }

/-- Closes the blocks that a column lies left of. -/
def unwind (column : Int) : List Int → Lexer → Lexer
  | [], l => l
  | o :: outer, l =>
    if l.inBlock && column < l.indent then
      unwind column outer { l.push .blockEnd with indent := o, outer }
    else l

/-- Closes the blocks that a column lies left of. -/
def closeBlocks (l : Lexer) (column : Int) : Lexer := unwind column l.outer l

/-- Opens a block at a column, unless one is open there. -/
def openBlock (l : Lexer) (column : Int) : Option Lexer :=
  if l.indent < column then some { l with indent := column, outer := l.indent :: l.outer }
  else none

/-- Forgets the keys that cannot be keys any more: they stand on another line or too far back. -/
def dropStale (l : Lexer) : Except Fault Lexer :=
  let stale (k : PossibleKey) : Bool :=
    k.line != l.cursor.line || 1024 < l.cursor.index - k.index
  if l.keys.any fun (_, k) => stale k && k.required then .error .malformed
  else .ok { l with keys := l.keys.filter fun (_, k) => !stale k }

/-- Forgets the possible key of this level. -/
def dropKey (l : Lexer) : Except Fault Lexer :=
  if l.keys.any fun (level, k) => level == l.flow && k.required then .error .malformed
  else .ok { l with keys := l.keys.filter fun (level, _) => level != l.flow }

/-- Remembers that the next token may be a key. -/
def saveKey (l : Lexer) : Except Fault Lexer :=
  if l.keyAllowed then do
    let l ← l.dropKey
    let key : PossibleKey :=
      { place := l.tokens.size
        required := l.inBlock && l.indent == l.column
        index := l.cursor.index
        line := l.cursor.line
        column := l.cursor.column }
    return { l with keys := (l.flow, key) :: l.keys }
  else return l

/-- Moves over spaces, comments and line breaks; outside brackets a key may begin a line. -/
def skipToToken : Nat → Lexer → Lexer
  | 0, l => l
  | fuel + 1, l =>
    let c := (l.cursor.skip (· = ' ')).skipComment
    if isBreak c.here then
      skipToToken fuel
        { l with cursor := c.lineBreak.2, keyAllowed := l.keyAllowed || l.inBlock }
    else { l with cursor := c }

/-! ## Directives, anchors and tags -/

/-- A number of a version. -/
def versionNumber (c : Cursor) : Except Fault (Nat × Cursor) :=
  let (ds, c) := c.span Char.isDigit
  if ds.isEmpty then .error .malformed else .ok (Json.digitsNumber ds, c)

/-- The handle of a tag. -/
def tagHandle (c : Cursor) : Except Fault (String × Cursor) :=
  if c.here ≠ '!' then .error .malformed
  else
    let c := c.next
    if c.here = ' ' then .ok ("!", c)
    else
      let (name, c) := c.span isNameChar
      if c.here = '!' then .ok ("!" ++ .ofList name ++ "!", c.next) else .error .malformed

/-- A character of a tag. -/
def isTagChar (c : Char) : Bool :=
  c.isAlphanum || "-;/?:@&=+$,_.!~*'()[]%".toList.contains c

/-- The octets of percent codes. -/
def percentOctets : Nat → Cursor → Except Fault (List UInt8 × Cursor)
  | 0, c => .ok ([], c)
  | fuel + 1, c =>
    if c.here = '%' then
      match Text.hexValue? (c.peek 1), Text.hexValue? (c.peek 2) with
      | some a, some b => do
        let (more, c) ← percentOctets fuel (c.forward 3)
        return (UInt8.ofNat (16 * a + b) :: more, c)
      | _, _ => .error .malformed
    else .ok ([], c)

/-- The text of a tag with its percent codes undone. -/
def tagChars : Nat → Cursor → Except Fault (List Char × Cursor)
  | 0, c => .ok ([], c)
  | fuel + 1, c =>
    if c.here = '%' then do
      let (octets, c) ← percentOctets c.rest.length c
      match Text.decodeUtf8 octets with
      | .error _ => .error .malformed
      | .ok s =>
        let (cs, c) ← tagChars fuel c
        return (s.toList ++ cs, c)
    else if isTagChar c.here then do
      let (run, c) := c.span fun ch => ch != '%' && isTagChar ch
      let (cs, c) ← tagChars fuel c
      return (run ++ cs, c)
    else .ok ([], c)

/-- The text of a tag; it may not be empty. -/
def tagText (c : Cursor) : Except Fault (String × Cursor) :=
  if isTagChar c.here then do
    let (cs, c) ← tagChars c.rest.length.succ c
    return (.ofList cs, c)
  else .error .malformed

/-- A directive; the cursor stands behind its mark. -/
def directive (c : Cursor) : Except Fault (Directive × Cursor) := do
  let (name, c) := c.span isNameChar
  if name.isEmpty || !isSpaceOrEnd c.here then throw .malformed
  if name = "YAML".toList then
    let (major, c) ← versionNumber (c.skip (· = ' '))
    if c.here ≠ '.' then throw .malformed
    let (_, c) ← versionNumber c.next
    if !isSpaceOrEnd c.here then throw .malformed
    return (.version major, ← c.skipRestOfLine)
  else if name = "TAG".toList then
    let (handle, c) ← tagHandle (c.skip (· = ' '))
    if c.here ≠ ' ' then throw .malformed
    let (front, c) ← tagText (c.skip (· = ' '))
    if !isSpaceOrEnd c.here then throw .malformed
    return (.tag handle front, ← c.skipRestOfLine)
  else
    return (.other, ← (c.skip fun ch => !isBreakOrEnd ch).skipRestOfLine)

/-- The name of an anchor or an alias; the cursor stands behind its mark. -/
def anchorName (c : Cursor) : Except Fault (String × Cursor) :=
  let (name, c) := c.span isNameChar
  if name.isEmpty then .error .malformed
  else if isBlankOrEnd c.here || "?:,]\x7d%@`".toList.contains c.here then .ok (.ofList name, c)
  else .error .malformed

/-- The tag of a node; the cursor stands at its mark. -/
def tag (c : Cursor) : Except Fault (Token × Cursor) := do
  let (t, c) ←
    if c.peek 1 = '<' then do
      let (suffix, c) ← tagText (c.forward 2)
      if c.here ≠ '>' then throw .malformed
      pure (Token.tag none suffix, c.next)
    else if isBlankOrEnd (c.peek 1) then pure (Token.tag none "!", c.next)
    else do
      let word := c.next.rest.takeWhile fun ch => !isSpaceOrEnd ch
      let (handle, c) ← if word.contains '!' then tagHandle c else pure ("!", c.next)
      let (suffix, c) ← tagText c
      pure (Token.tag (some handle) suffix, c)
  if isSpaceOrEnd c.here then return (t, c) else throw .malformed

/-! ## One token after the other -/

/-- A plain scalar may begin here. -/
def beginsPlain (l : Lexer) : Bool :=
  let ch := l.cursor.here
  !(isBlankOrEnd ch || "-?:,[]\x7b\x7d#&*!|>'\"%@`".toList.contains ch)
    || (!isBlankOrEnd (l.cursor.peek 1) && (ch = '-' || (l.inBlock && (ch = '?' || ch = ':'))))

/-- Adds the end of the text. -/
def fetchEnd (l : Lexer) : Except Fault Lexer := do
  let l ← (l.closeBlocks (-1)).dropKey
  return l.push .streamEnd

/-- Adds a directive. -/
def fetchDirective (l : Lexer) : Except Fault Lexer := do
  let l ← (l.closeBlocks (-1)).dropKey
  let (d, c) ← directive l.cursor.next
  return { l.push (.directive d) with cursor := c, keyAllowed := false }

/-- Adds a mark between documents. -/
def fetchSeparator (l : Lexer) (t : Token) : Except Fault Lexer := do
  let l ← (l.closeBlocks (-1)).dropKey
  return { l.pushOver t 3 with keyAllowed := false }

/-- Adds an opening bracket. -/
def fetchOpen (l : Lexer) (t : Token) : Except Fault Lexer := do
  let l ← l.saveKey
  return { l.pushOver t 1 with flow := l.flow + 1, keyAllowed := true }

/-- Adds a closing bracket. -/
def fetchClose (l : Lexer) (t : Token) : Except Fault Lexer := do
  let l ← l.dropKey
  return { l.pushOver t 1 with flow := l.flow - 1, keyAllowed := false }

/-- Adds a comma. -/
def fetchComma (l : Lexer) : Except Fault Lexer := do
  let l ← l.dropKey
  return { l.pushOver .flowEntry 1 with keyAllowed := true }

/-- Opens a block here if none is open at this column; a key must be allowed here. -/
def openHere (l : Lexer) (t : Token) : Except Fault Lexer :=
  if !l.inBlock then .ok l
  else if !l.keyAllowed then .error .malformed
  else
    match l.openBlock l.column with
    | some l => .ok (l.push t)
    | none => .ok l

/-- Adds the mark of an item. -/
def fetchItem (l : Lexer) : Except Fault Lexer := do
  let l ← l.openHere .blockSequenceStart
  let l ← { l with keyAllowed := true }.dropKey
  return l.pushOver .blockEntry 1

/-- Adds the mark of a key. -/
def fetchKey (l : Lexer) : Except Fault Lexer := do
  let l ← l.openHere .blockMappingStart
  let l ← { l with keyAllowed := l.inBlock }.dropKey
  return l.pushOver .key 1

/-- Adds the mark of a value, and the mark of its key at the place of the possible key. -/
def fetchValue (l : Lexer) : Except Fault Lexer :=
  match l.keys.find? fun (level, _) => level == l.flow with
  | some (_, k) =>
    let l := { l with keys := l.keys.filter fun (level, _) => level != l.flow }
    let l := l.insert k.place .key
    let l := if l.inBlock then
        match l.openBlock k.column with
        | some l => l.insert k.place .blockMappingStart
        | none => l
      else l
    .ok { l.pushOver .value 1 with keyAllowed := false }
  | none => do
    let l ← l.openHere .blockMappingStart
    let l ← { l with keyAllowed := l.inBlock }.dropKey
    return l.pushOver .value 1

/-- Adds an anchor, an alias, a tag or a quoted scalar, which may be a key. -/
def fetchNode (l : Lexer) (read : Cursor → Except Fault (Token × Cursor)) :
    Except Fault Lexer := do
  let l ← l.saveKey
  let (t, c) ← read l.cursor
  return { l.push t with cursor := c, keyAllowed := false }

/-- Adds a block scalar. -/
def fetchBlockScalar (l : Lexer) (folded : Bool) : Except Fault Lexer := do
  let l ← l.dropKey
  let (s, c) ← blockScalar folded l.indent l.cursor
  return { l.push (.scalar false s) with cursor := c, keyAllowed := true }

/-- Adds a plain scalar. Behind a line break a key may begin. -/
def fetchPlain (l : Lexer) : Except Fault Lexer := do
  let l ← l.saveKey
  let (cs, broken, c) :=
    plainRuns (!l.inBlock) (l.indent + 1) l.cursor.rest.length.succ [] false l.cursor
  return { l.push (.scalar true (.ofList cs)) with cursor := c, keyAllowed := broken }

/-- Adds the next token; the mark says whether it was the last. -/
def fetch (l : Lexer) : Except Fault (Lexer × Bool) := do
  let l ← (skipToToken l.cursor.rest.length.succ l).dropStale
  let l := l.closeBlocks l.column
  let c := l.cursor
  let ch := c.here
  let more (x : Except Fault Lexer) : Except Fault (Lexer × Bool) := x.map (·, false)
  if c.rest.isEmpty then return (← l.fetchEnd, true)
  else if ch = '%' && c.column = 0 then more l.fetchDirective
  else if c.column = 0 && c.isSeparator '-' then more (l.fetchSeparator .documentStart)
  else if c.column = 0 && c.isSeparator '.' then more (l.fetchSeparator .documentEnd)
  else if ch = '[' then more (l.fetchOpen .flowSequenceStart)
  else if ch = '\x7b' then more (l.fetchOpen .flowMappingStart)
  else if ch = ']' then more (l.fetchClose .flowSequenceEnd)
  else if ch = '\x7d' then more (l.fetchClose .flowMappingEnd)
  else if ch = ',' then more l.fetchComma
  else if ch = '-' && isBlankOrEnd (c.peek 1) then more l.fetchItem
  else if ch = '?' && (!l.inBlock || isBlankOrEnd (c.peek 1)) then more l.fetchKey
  else if ch = ':' && (!l.inBlock || isBlankOrEnd (c.peek 1)) then more l.fetchValue
  else if ch = '*' then
    more (l.fetchNode fun c => do let (n, c) ← anchorName c.next; return (.alias_ n, c))
  else if ch = '&' then
    more (l.fetchNode fun c => do let (n, c) ← anchorName c.next; return (.anchor n, c))
  else if ch = '!' then more (l.fetchNode tag)
  else if ch = '|' && l.inBlock then more (l.fetchBlockScalar false)
  else if ch = '>' && l.inBlock then more (l.fetchBlockScalar true)
  else if ch = '\'' || ch = '"' then
    more (l.fetchNode fun c => do let (s, c) ← quotedScalar c; return (.scalar false s, c))
  else if l.beginsPlain then more l.fetchPlain
  else throw .malformed

/-- The tokens that are settled: those in front of the first one that may still turn out to be a
key. -/
def settled (l : Lexer) : Array Token :=
  let waiting := match l.dropStale with
    | .ok l => l.keys
    | .error _ => l.keys
  match (waiting.map fun (_, k) => k.place).min? with
  | some place => l.tokens.take place
  | none => l.tokens

/-- Adds tokens up to the end of the text or the first fault, which takes the place of the tokens
that are not settled. Every token takes a character. -/
def run : Nat → Lexer → Array Token
  | 0, l => l.tokens.push (.fault .malformed)
  | fuel + 1, l =>
    match l.fetch with
    | .error f => l.settled.push (.fault f)
    | .ok (l, true) => l.tokens
    | .ok (l, false) => run fuel l

end Lexer

/-- A character that a text may have. -/
def isAllowed (c : Char) : Bool :=
  let n := c.toNat
  n == 9 || n == 10 || n == 13 || (0x20 ≤ n && n ≤ 0x7e) || n == 0x85
    || (0xa0 ≤ n && n ≤ 0xd7ff) || (0xe000 ≤ n && n ≤ 0xfffd) || 0x10000 ≤ n

/-- The tokens of a text. A mark at the very front is passed over. -/
def tokenize (cs : List Char) : List Token :=
  if cs.all isAllowed then
    let l := Lexer.ofChars cs
    let l := if l.cursor.here = '\ufeff' then { l with cursor := l.cursor.next } else l
    (Lexer.run (cs.length + 2) l).toList
  else [.fault .malformed]

end Yaml
end ToolGateway
