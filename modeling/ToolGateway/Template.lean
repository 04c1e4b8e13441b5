/-
# Description templates

A template is text with fields in braces; a doubled brace stands for itself. The one value that a
field can name is the description. A field may pick a character of it or something else that it has,
quote it, and lay it out with a fill character, an alignment, a width and a greatest length. Faults
are found from left to right. These are the description templates of `SPEC_FULL.md`, 4.4.
-/
import ToolGateway.Template.Member
import ToolGateway.Text.Blank

namespace ToolGateway
namespace Template

/-- Why a template cannot be filled in. -/
inductive Fault where
  | singleOpen
  | singleClose
  | openInName
  | unclosedField
  | unclosedLayout
  | missingConversion
  | afterConversion
  | unknownConversion (c : Char)
  | tooDeep
  | tooManyDigits
  | missingBracket
  | emptyAttribute
  | afterBracket
  | unknownName (name : String)
  | noPosition (index : Nat)
  | noAttribute (owner name : String)
  | notGiven (name : String)
  | namedIndex
  | indexBeyondEnd
  | namedPlace
  | placeBeyondEnd
  | noItems (owner : String)
  | noGeneric (kind : String)
  | noEntry (key : String)
  | unsupportedLayout (kind : String)
  | unreadableLayout (layout : String)
  | missingPrecision
  | bothSeparators
  | separatorWith (separator code : Char)
  | unknownCode (code : Char)
  | spaceSign
  | sign
  | zeroCoercion
  | alternate
  | signAwareAlignment
deriving DecidableEq, Repr

/-- A code in a message: itself if it is visible ASCII, else its number. -/
def codeText (c : Char) (limit : Nat) : String :=
  if 32 < c.toNat ∧ c.toNat < limit then String.singleton c
  else "\\x" ++ .ofList (Nat.toDigits 16 c.toNat)

/-- The fault in words. -/
def Fault.message : Fault → String
  | singleOpen => "Single '\x7b' encountered in format string"
  | singleClose => "Single '\x7d' encountered in format string"
  | openInName => "unexpected '\x7b' in field name"
  | unclosedField => "expected '\x7d' before end of string"
  | unclosedLayout => "unmatched '\x7b' in format spec"
  | missingConversion => "end of string while looking for conversion specifier"
  | afterConversion => "expected ':' after conversion specifier"
  | unknownConversion c => "Unknown conversion specifier " ++ codeText c 127
  | tooDeep => "Max string recursion exceeded"
  | tooManyDigits => "Too many decimal digits in format string"
  | missingBracket => "Missing ']' in format string"
  | emptyAttribute => "Empty attribute in format string"
  | afterBracket => "Only '.' or '[' may follow ']' in format field specifier"
  | unknownName name => Text.quoted name
  | noPosition i =>
    "Replacement index " ++ toString i ++ " out of range for positional args tuple"
  | noAttribute owner name => owner ++ " has no attribute '" ++ name ++ "'"
  | notGiven name => name
  | namedIndex => "string indices must be integers, not 'str'"
  | indexBeyondEnd => "string index out of range"
  | namedPlace => "tuple indices must be integers or slices, not str"
  | placeBeyondEnd => "tuple index out of range"
  | noItems owner => owner ++ " is not subscriptable"
  | noGeneric kind => kind ++ " is not a generic class"
  | noEntry key => key
  | unsupportedLayout kind => "unsupported format string passed to " ++ kind ++ ".__format__"
  | unreadableLayout layout =>
    "Invalid format specifier '" ++ layout ++ "' for object of type 'str'"
  | missingPrecision => "Format specifier missing precision"
  | bothSeparators => "Cannot specify both ',' and '_'."
  | separatorWith s c =>
    "Cannot specify '" ++ String.singleton s ++ "' with '" ++ codeText c 128 ++ "'."
  | unknownCode c => "Unknown format code '" ++ codeText c 128 ++ "' for object of type 'str'"
  | spaceSign => "Space not allowed in string format specifier"
  | sign => "Sign not allowed in string format specifier"
  | zeroCoercion => "Negative zero coercion (z) not allowed in string format specifier"
  | alternate => "Alternate form (#) not allowed in string format specifier"
  | signAwareAlignment => "'=' alignment not allowed in string format specifier"

/-! ## Numbers -/

/-- The largest number that a width or an index may have. -/
def numberLimit : Nat := 0x7fffffffffffffff

/-- The number that decimal digits at the front stand for, how many there are, and the rest. -/
def readNumber (n count : Nat) : List Char → Except Fault (Nat × Nat × List Char)
  | [] => .ok (n, count, [])
  | c :: rest =>
    match Text.digitValue? c with
    | none => .ok (n, count, c :: rest)
    | some d =>
      if numberLimit < n * 10 + d then .error .tooManyDigits
      else readNumber (n * 10 + d) (count + 1) rest

/-- A text that consists of digits, as a number. -/
def index? (cs : List Char) : Except Fault (Option Nat) := do
  let (n, count, rest) ← readNumber 0 0 cs
  return if count = 0 ∨ !rest.isEmpty then none else some n

/-! ## Layouts -/

/-- How a text is laid out. -/
structure Layout where
  fill : Char
  align : Char
  signMark : Option Char
  coerceZero : Bool
  alternateForm : Bool
  width : Option Nat
  precision : Option Nat
  code : Char

/-- A mark of alignment. -/
def isAlign (c : Char) : Bool := c = '<' || c = '>' || c = '=' || c = '^'

/-- Fill and alignment at the front: the fill, the alignment, whether a fill was given. -/
def readAlign : List Char → Char × Char × Bool × List Char
  | f :: a :: rest =>
    if isAlign a then (f, a, true, rest)
    else if isAlign f then (' ', f, false, a :: rest)
    else (' ', '<', false, f :: a :: rest)
  | [a] => if isAlign a then (' ', a, false, []) else (' ', '<', false, [a])
  | [] => (' ', '<', false, [])

/-- A character at the front that satisfies a test. -/
def readIf (p : Char → Bool) : List Char → Option Char × List Char
  | c :: rest => if p c then (some c, rest) else (none, c :: rest)
  | [] => (none, [])

/-- The separator of digit groups at the front. -/
def readSeparator (cs : List Char) : Except Fault (Option Char × List Char) := do
  let (comma, cs) := readIf (· = ',') cs
  let (under, cs) := readIf (· = '_') cs
  if comma.isSome && under.isSome then .error .bothSeparators
  else if under.isSome && cs.head? == some ',' then .error .bothSeparators
  else return (if comma.isSome then comma else under, cs)

/-- The greatest length, behind a point. -/
def readPrecision (cs : List Char) : Except Fault (Option Nat × List Char) :=
  match cs with
  | '.' :: rest => do
    let (n, count, rest) ← readNumber 0 0 rest
    if count = 0 then .error .missingPrecision else return (some n, rest)
  | _ => .ok (none, cs)

/-- The presentation codes that admit a separator of digit groups. -/
def admitsSeparator (separator code : Char) : Bool :=
  "defgEG%F".toList.contains code || (separator = '_' && "boxX".toList.contains code)

/-- The layout that a text describes. -/
def readLayout (whole : List Char) : Except Fault Layout := do
  let (fill, align, fillGiven, cs) := readAlign whole
  let (signMark, cs) := readIf (fun c => c = ' ' || c = '+' || c = '-') cs
  let (zero, cs) := readIf (· = 'z') cs
  let (hash, cs) := readIf (· = '#') cs
  let (pad, cs) := if fillGiven then (none, cs) else readIf (· = '0') cs
  let (width, count, cs) ← readNumber 0 0 cs
  let (separator, cs) ← readSeparator cs
  let (precision, cs) ← readPrecision cs
  let code ← match cs with
    | [] => pure 's'
    | [c] => pure c
    | _ => .error (.unreadableLayout (.ofList whole))
  if let some s := separator then
    if !admitsSeparator s code then .error (.separatorWith s code)
  return {
    fill := pad.getD fill
    align, signMark
    coerceZero := zero.isSome
    alternateForm := hash.isSome
    width := if count = 0 then none else some width
    precision, code }

/-- A text cut to the greatest length and filled up to the width. -/
def Layout.apply (l : Layout) (cs : List Char) : Except Fault (List Char) :=
  if l.code ≠ 's' then .error (.unknownCode l.code)
  else if l.signMark = some ' ' then .error .spaceSign
  else if l.signMark.isSome then .error .sign
  else if l.coerceZero then .error .zeroCoercion
  else if l.alternateForm then .error .alternate
  else if l.align = '=' then .error .signAwareAlignment
  else
    let cut := match l.precision with
      | some n => cs.take n
      | none => cs
    let missing := l.width.getD 0 - cut.length
    let left := if l.align = '>' then missing else if l.align = '^' then missing / 2 else 0
    .ok (List.replicate left l.fill ++ cut ++ List.replicate (missing - left) l.fill)

/-! ## Fields -/

/-- A field: its name with what picks parts of the value, a conversion, and a layout. -/
structure Field where
  name : List Char
  conversion : Option Char
  layout : List Char

/-- The name of a field up to the mark that ends it; a bracket covers what stands in it. -/
def readName (inBracket : Bool) : List Char → Except Fault (List Char × Char × List Char)
  | [] => .error .unclosedField
  | c :: rest => do
    if inBracket then
      let (name, mark, rest) ← readName (c != ']') rest
      return (c :: name, mark, rest)
    else if c = '\x7b' then .error .openInName
    else if c = '\x7d' ∨ c = ':' ∨ c = '!' then return ([], c, rest)
    else
      let (name, mark, rest) ← readName (c = '[') rest
      return (c :: name, mark, rest)

/-- The layout of a field up to the brace that closes the field; `depth` braces are open. -/
def readFieldLayout (depth : Nat) : List Char → Except Fault (List Char × List Char)
  | [] => .error .unclosedLayout
  | c :: rest => do
    if c = '\x7d' ∧ depth = 0 then return ([], rest)
    let depth := if c = '\x7b' then depth + 1 else if c = '\x7d' then depth - 1 else depth
    let (layout, rest) ← readFieldLayout depth rest
    return (c :: layout, rest)

/-- The field behind an opening brace. -/
def readField (cs : List Char) : Except Fault (Field × List Char) := do
  let (name, mark, rest) ← readName false cs
  if mark = '\x7d' then return (⟨name, none, []⟩, rest)
  if mark = ':' then
    let (layout, rest) ← readFieldLayout 0 rest
    return (⟨name, none, layout⟩, rest)
  match rest with
  | [] => .error .missingConversion
  | c :: '\x7d' :: rest => return (⟨name, some c, []⟩, rest)
  | c :: ':' :: rest =>
    let (layout, rest) ← readFieldLayout 0 rest
    return (⟨name, some c, layout⟩, rest)
  | [_] => .error .unclosedLayout
  | _ => .error .afterConversion

/-- An item of a thing, by its place or by its name. -/
def itemOf (t : Thing) (place? : Option Nat) (name : List Char) : Except Fault Thing :=
  match t, place? with
  | .text _, none => .error .namedIndex
  | .text cs, some i =>
    match cs[i]? with
    | some c => .ok (.text [c])
    | none => .error .indexBeyondEnd
  | .several _, none => .error .namedPlace
  | .several items, some i =>
    match items[i]? with
    | some x => .ok x
    | none => .error .placeBeyondEnd
  | .entries kind, none =>
    match (Kind.named kind).members.find? fun m => m.name.toList = name with
    | some m => .ok (.entry m)
    | none => .error (.noEntry (Text.quoted (.ofList name)))
  | .entries _, some i => .error (.noEntry (toString i))
  | .kind k, _ =>
    if k = Kind.kindName ∨ (Kind.named k).has "__class_getitem__" then
      .ok (.special k (match place? with
        | some i => .number i
        | none => .text name))
    else .error (.noItems ("type '" ++ k ++ "'"))
  | .special k x, _ => .error (.noGeneric (Thing.special k x).quoted)
  | t, _ => .error (.noItems t.owner)

/-- The fault of naming what a thing does not have. -/
def lackOf (t : Thing) (name : String) : Fault :=
  if t.isUngiven name && name = "__abstractmethods__" then .notGiven name
  else .noAttribute t.owner name

/-- Picks parts of a thing as the rest of a field's name says. -/
def pick (t : Thing) : Nat → List Char → Except Fault Thing
  | 0, _ => .ok t
  | _, [] => .ok t
  | fuel + 1, '.' :: rest =>
    let name := rest.takeWhile fun c => c != '.' && c != '['
    if name.isEmpty then .error .emptyAttribute
    else
      match t.member? (.ofList name) with
      | some x => pick x fuel (rest.drop name.length)
      | none => .error (lackOf t (.ofList name))
  | fuel + 1, '[' :: rest => do
    let inner := rest.takeWhile (· != ']')
    match rest.drop inner.length with
    | [] => .error .missingBracket
    | _ :: more =>
      let place? ← index? inner
      if inner.isEmpty then .error .emptyAttribute
      pick (← itemOf t place? inner) fuel more
  | _, _ => .error .afterBracket

/-- The thing that a field names. -/
def Field.value (f : Field) (description : List Char) : Except Fault Thing := do
  let first := f.name.takeWhile fun c => c != '.' && c != '['
  match ← index? first with
  | some i => .error (.noPosition i)
  | none =>
    if first.isEmpty then .error (.noPosition 0)
    else if first = "description".toList then
      let rest := f.name.drop first.length
      pick (.text description) (rest.length + 1) rest
    else .error (.unknownName (.ofList first))

/-- The thing quoted with everything outside ASCII escaped. -/
def asciiQuoted (t : Thing) : List Char :=
  t.quoted.toList.flatMap fun c => if c.toNat < 128 then [c] else Text.numberEscape c

/-- Applies a conversion, which gives a text. -/
def convert (c : Char) (t : Thing) : Except Fault Thing :=
  match c with
  | 's' => .ok (.text t.shown)
  | 'r' => .ok (.text t.quoted.toList)
  | 'a' => .ok (.text (asciiQuoted t))
  | c => .error (.unknownConversion c)

/-- Lays a thing out. Only texts are laid out. -/
def layOut (layout : List Char) (t : Thing) : Except Fault (List Char) :=
  if layout.isEmpty then .ok t.shown
  else
    match t with
    | .text cs => do (← readLayout layout).apply cs
    | t => .error (.unsupportedLayout t.kindName)

/-- The text of a field. Fields inside its layout are filled in by `expand`. -/
def Field.render (f : Field) (expand : List Char → Except Fault (List Char))
    (description : List Char) : Except Fault (List Char) := do
  let value ← f.value description
  let value ← match f.conversion with
    | some c => convert c value
    | none => pure value
  let layout ← if f.layout.contains '\x7b' then expand f.layout else pure f.layout
  layOut layout value

/-- Fills in the fields from left to right. Every step takes a character off the template. -/
def fill (expand : List Char → Except Fault (List Char)) (description : List Char) :
    Nat → List Char → Except Fault (List Char)
  | 0, _ => .ok []
  | _, [] => .ok []
  | fuel + 1, '\x7b' :: rest =>
    match rest with
    | [] => .error .singleOpen
    | '\x7b' :: rest => ('\x7b' :: ·) <$> fill expand description fuel rest
    | _ => do
      let (field, rest) ← readField rest
      let text ← field.render expand description
      (text ++ ·) <$> fill expand description fuel rest
  | fuel + 1, '\x7d' :: rest =>
    match rest with
    | '\x7d' :: rest => ('\x7d' :: ·) <$> fill expand description fuel rest
    | _ => .error .singleClose
  | fuel + 1, c :: rest => (c :: ·) <$> fill expand description fuel rest

/-- Fills in a template in which fields are nested no deeper than given. -/
def fillDeep (description : List Char) : Nat → List Char → Except Fault (List Char)
  | 0, _ => .error .tooDeep
  | depth + 1, cs => fill (fillDeep description depth) description cs.length cs

/-- The template with the description filled in; a layout may hold fields, those of their layouts
may not. -/
def render (template description : String) : Except Fault String :=
  (fillDeep description.toList 2 template.toList).map String.ofList

end Template
end ToolGateway
