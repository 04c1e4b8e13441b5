/-
# Issues of a checked value

A value that does not have the shape asked for gives a list of issues, each with its place: the
names and indices that lead to it from the outside.
-/
import ToolGateway.Json.Writer
import ToolGateway.Text.Excerpt

namespace ToolGateway

/-- A step towards the place of an issue. -/
inductive Step where
  | name (s : String)
  | index (i : Int)
deriving DecidableEq, Repr

/-- What is wrong at a place. -/
inductive IssueKind where
  | missing
  | notText
  | notUnicode
  | notInteger
  | unreadableInteger
  | hugeInteger
  | fraction
  | notFinite
  | notNumber
  | notTruth
  | unreadableTruth
  | notList
  | notMap
  | notModel (model : String)
  | notAmong (choices : List String)
  | notThis (text : String)
  | tooDeep
deriving DecidableEq, Repr

/-- One thing wrong with a value: the kind, the place, and the value found there. -/
structure Issue where
  kind : IssueKind
  place : List Step
  found : Value

namespace IssueKind

/-- The code of the kind. -/
def code : IssueKind → String
  | missing => "missing"
  | notText => "string_type"
  | notUnicode => "string_unicode"
  | notInteger => "int_type"
  | unreadableInteger => "int_parsing"
  | hugeInteger => "int_parsing_size"
  | fraction => "int_from_float"
  | notFinite => "finite_number"
  | notNumber => "float_type"
  | notTruth => "bool_type"
  | unreadableTruth => "bool_parsing"
  | notList => "list_type"
  | notMap => "dict_type"
  | notModel _ => "model_type"
  | notAmong _ => "enum"
  | notThis _ => "literal_error"
  | tooDeep => "recursion_depth_exceeded"

/-- Quoted choices, the last one after "or". -/
def choiceText : List String → String
  | [] => ""
  | [x] => "'" ++ x ++ "'"
  | [x, y] => "'" ++ x ++ "' or '" ++ y ++ "'"
  | x :: rest => "'" ++ x ++ "', " ++ choiceText rest

/-- The kind in words. -/
def message : IssueKind → String
  | missing => "Field required"
  | notText => "Input should be a valid string"
  | notUnicode => "Input should be a valid string, unable to parse raw data as a unicode string"
  | notInteger => "Input should be a valid integer"
  | unreadableInteger =>
    "Input should be a valid integer, unable to parse string as an integer"
  | hugeInteger => "Unable to parse input string as an integer, exceeded maximum size"
  | fraction => "Input should be a valid integer, got a number with a fractional part"
  | notFinite => "Input should be a finite number"
  | notNumber => "Input should be a valid number"
  | notTruth => "Input should be a valid boolean"
  | unreadableTruth => "Input should be a valid boolean, unable to interpret input"
  | notList => "Input should be a valid list"
  | notMap => "Input should be a valid dictionary"
  | notModel model => "Input should be a valid dictionary or instance of " ++ model
  | notAmong choices => "Input should be " ++ choiceText choices
  | notThis text => "Input should be " ++ choiceText [text]
  | tooDeep => "Recursion error - maximum validation depth exceeded"

/-- What the kind adds to the details of an issue. -/
def context : IssueKind → Option Value
  | notModel model => some (.ofTable [("class_name", .text model)])
  | notAmong choices => some (.ofTable [("expected", .text (choiceText choices))])
  | notThis text => some (.ofTable [("expected", .text (choiceText [text]))])
  | _ => none

end IssueKind

namespace Step

/-- The step as a value. -/
def value : Step → Value
  | name s => .text s
  | index i => .int i

/-- An integer that a signed word of 64 bits can hold. -/
def fitsWord (i : Int) : Bool := -0x8000000000000000 ≤ i && i < 0x8000000000000000

/-- The step that leads to a key of a map. Integers that fit a word stay numbers. -/
def ofKey : Value → Step
  | .text s => name s
  | .bool b => index (if b then 1 else 0)
  | .int i => if fitsWord i then index i else name (toString i)
  | v => name v.display

end Step

namespace Issue

/-- The issue seen from one level further out. -/
def under (s : Step) (i : Issue) : Issue := { i with place := s :: i.place }

/-- The issue as an entry of details. -/
def value (i : Issue) : Value :=
  .ofTable <|
    [("type", .text i.kind.code), ("loc", .list (i.place.map Step.value)),
      ("msg", .text i.kind.message), ("input", i.found)]
    ++ match i.kind.context with
      | some c => [("ctx", c)]
      | none => []

/-- Where a kind of issue is explained. -/
def explanation (code : String) : String := "https://errors.pydantic.dev/2.14/v/" ++ code

/-- The issue in words: the place, and below it what is wrong with what was found there. -/
def text (i : Issue) : String :=
  ".".intercalate (i.place.map fun s => s.value.display) ++ "\n  " ++ i.kind.message
    ++ " [type=" ++ i.kind.code ++ ", input_value=" ++ Text.excerpt i.found.quoted
    ++ ", input_type=" ++ i.found.kindName ++ "]\n    For further information visit "
    ++ explanation i.kind.code

/-- The issues found in a value of a model, in words. -/
def summary (model : String) (issues : List Issue) : String :=
  toString issues.length ++ " validation error" ++ (if issues.length = 1 then "" else "s")
    ++ " for " ++ model ++ "\n" ++ "\n".intercalate (issues.map text)

end Issue
end ToolGateway
