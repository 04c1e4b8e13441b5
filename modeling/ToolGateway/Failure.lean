/-
# Failures

Everything that can go wrong between a document and the answer of a tool, by cause. The wording of
each cause is in one function. The failures that are reports are those of `SPEC_FULL.md`, 7.
-/
import ToolGateway.Check.Shape
import ToolGateway.Http.Coding
import ToolGateway.Http.Headers
import ToolGateway.Http.Message
import ToolGateway.Http.Url
import ToolGateway.Report
import ToolGateway.Template
import ToolGateway.Value.Membership
import ToolGateway.Yaml.Cursor

namespace ToolGateway

/-- A setting cannot be used. -/
inductive SettingFault where
  | noBackend
  | badInteger (text : String)
  | tooManyDigits (count : Nat)
  | badFloat (text : String)
  | unknownSetting (name : String)
  /-- A setting has the name of the configuration itself. -/
  | ownName
  | unknownPolicy (found : Value)
  | unknownMethod (found : Value)
  | headerItem (index length : Nat)
  | headerItemKind (index : Nat)
  | noPath (kind : String)

/-- A file cannot be read. -/
inductive FileFault where
  | isDirectory (path : String)
  | nameTooLong (path : String)
  /-- The system refuses to read it, by a number and in words. -/
  | refused (number : Nat) (reason path : String)
deriving DecidableEq, Repr

/-- Why something failed. -/
inductive Failure where
  | documentNotFound (path : String)
  | documentEmpty
  | documentUnreadable
  | documentNotMap
  | documentKind (kind : String)
  | documentInvalid (issues : List Issue)
  | missingOperationId (path method : String)
  | schemaCycle (chain : List String)
  | duplicateTools (names : List String)
  | toolNotFound (name : String)
  | loginRefused (status : Int) (body : String)
  | loginWithoutToken (status : Int)
  | invalid (model : String) (issues : List Issue)
  | report (fault : ReportFault)
  | raw (fault : RawFault)
  | template (fault : Template.Fault)
  | scalar (fault : ScalarFault)
  | setting (fault : SettingFault)
  | file (fault : FileFault)
  | utf8 (fault : Text.Utf8Fault)
  | charset (fault : Text.CharsetFault)
  | json (text : String) (fault : Json.ReadFault)
  | unwritable (fault : Json.WriteFault)
  /-- The parts of a value lie too deep one in the other, or have no end. -/
  | tooDeep
  | address (fault : Http.UrlFault)
  | hostName (fault : Http.HostName.NameFault)
  | ascii (fault : Text.AsciiFault)
  | header (fault : Http.HeaderFault)
  | coding (fault : Compression.Fault)
  | transport (fault : Http.TransportFault)

/-- A text that is no integer in a base, in words; of a long text the front is shown. -/
def badIntegerMessage (text : String) (base : Nat) : String :=
  "invalid literal for int() with base " ++ toString base ++ ": "
    ++ String.ofList ((Text.quoted text).toList.take 200)

/-- The fault in words. -/
def ScalarFault.message : ScalarFault → String
  | badInteger text base => badIntegerMessage text base
  | tooManyDigits count => DigitLimit.readMessage count
  | badFloat text => "could not convert string to float: " ++ Text.quoted text
  | badMoment message => message
  | unknownTruth text => Text.quoted text
  | noMoment => "'NoneType' object has no attribute 'groupdict'"
  | momentOfMapping => "expected string or bytes-like object, got 'list'"
  | tooLarge => "int too large to convert to float"
  | emptyNumber => "string index out of range"
  | badCodePoint => "chr() arg not in range(0x110000)"
  | hugeCodePoint => "Python int too large to convert to C int"

/-- The fault in words. -/
def SettingFault.message : SettingFault → String
  | noBackend =>
    "backend url is not set, please add MEDUSA_BACKEND_URL env variable or set it in code."
  | badInteger text => badIntegerMessage text 10
  | tooManyDigits count => DigitLimit.readMessage count
  | badFloat text => "could not convert string to float: " ++ Text.quoted text
  | unknownSetting name => "Config.__init__() got an unexpected keyword argument '" ++ name ++ "'"
  | ownName => "Config.__init__() got multiple values for argument 'self'"
  | unknownPolicy found => found.quoted ++ " is not a valid DuplicateToolPolicy"
  | unknownMethod found => found.quoted ++ " is not a valid HTTPMethod"
  | headerItem index length =>
    "dictionary update sequence element #" ++ toString index ++ " has length "
      ++ toString length ++ "; 2 is required"
  | headerItemKind index =>
    "cannot convert dictionary update sequence element #" ++ toString index ++ " to a sequence"
  | noPath kind => "expected str, bytes or os.PathLike object, not " ++ kind

/-- The fault in words. -/
def FileFault.message : FileFault → String
  | isDirectory path => "[Errno 21] Is a directory: " ++ Text.quoted path
  | nameTooLong path => "[Errno 36] File name too long: " ++ Text.quoted path
  | refused number reason path =>
    "[Errno " ++ toString number ++ "] " ++ reason ++ ": " ++ Text.quoted path

namespace Failure

/-- The report of a failure that the gateway itself raises. -/
def report? : Failure → Option (Except ReportFault Report)
  | documentNotFound path =>
    some (Report.make .documentLoad (.text "OpenAPI document not found.") [("path", .text path)])
  | documentEmpty =>
    some (Report.make .documentLoad (.text "OpenAPI document content is required.") [])
  | documentUnreadable =>
    some (Report.make .documentLoad (.text "Invalid OpenAPI document content.") [])
  | documentNotMap =>
    some (Report.make .documentLoad (.text "OpenAPI document must be a mapping.") [])
  | documentInvalid issues =>
    some (Report.make .documentLoad (.text "Invalid OpenAPI document.")
      [("errors", .list (issues.map Issue.value))])
  | missingOperationId path method =>
    some (Report.missingOperationId (.text path) (.text method))
  | schemaCycle chain => some (Report.schemaCycle (chain.map .text))
  | duplicateTools names => some (Report.duplicateTools (names.map .text))
  | toolNotFound name => some (Report.toolNotFound (.text name))
  | loginRefused status body =>
    some (Report.login (.text "Admin login failed.") (.int status) [("body", .text body)])
  | loginWithoutToken status =>
    some (Report.login (.text "Admin login response did not contain a token.") (.int status) [])
  | _ => none

/-- A report, or why it cannot be shown, in words. -/
def reportText (r : Except ReportFault Report) : String :=
  match r >>= Report.text with
  | .ok s => s
  | .error f => f.message

/-- The failure in words. -/
def message (f : Failure) : String :=
  match f with
  | invalid model issues => Issue.summary model issues
  | report fault => fault.message
  | documentKind kind => "the JSON object must be str, bytes or bytearray, not " ++ kind
  | raw fault => fault.message
  | template fault => fault.message
  | scalar fault => fault.message
  | setting fault => fault.message
  | file fault => fault.message
  | utf8 fault => fault.message
  | charset fault => fault.message
  | json text (.mistake m left) => Json.placed text m left
  | json _ (.tooManyDigits count) => DigitLimit.readMessage count
  | json _ (.tooDeep kind) => Json.tooDeepMessage kind
  | unwritable fault => (ReportFault.details fault).message
  | tooDeep => "maximum recursion depth exceeded"
  | address fault => fault.message
  | hostName fault => fault.message
  | ascii fault => fault.message
  | header fault => fault.message
  | coding fault => fault.message
  | transport fault => fault.message
  | f =>
    match f.report? with
    | some r => reportText r
    | none => ""

/-- The family of reports that a failure belongs to, if the gateway itself raises it. -/
def family? : Failure → Option ReportFamily
  | documentNotFound _ | documentEmpty | documentUnreadable | documentNotMap | documentInvalid _ =>
    some .documentLoad
  | missingOperationId _ _ => some .missingOperationId
  | schemaCycle _ => some .schemaCycle
  | duplicateTools _ => some .duplicateTools
  | toolNotFound _ => some .toolNotFound
  | loginRefused _ _ | loginWithoutToken _ => some .login
  | _ => none

/-- Compilation of a document may fail in these two ways. -/
def isCompileFailure (f : Failure) : Bool :=
  f.family?.any fun k => k.around? == some .toolCompile

/-- A login that is refused, gives no token or gets no reply that can be read leaves the store
tools. -/
def isLoginFailure : Failure → Bool
  | loginRefused _ _ | loginWithoutToken _ | coding _ => true
  | transport fault => !Http.TransportFault.outside.contains fault.kind
  | _ => false

end Failure
end ToolGateway
