/-
Everything that can go wrong, by its cause. The message of a fault and the name of its class are
part of what the program answers; both are given here, once.
-/
import Workflows.Host.Label
import Workflows.Json.Reader
import Workflows.Value.Spelling

namespace Workflows

/-- A cause of failure. -/
inductive Fault
  /-- There is no step to run. -/
  | noSteps
  /-- There are entries, but none of them is a step. -/
  | noUsableSteps
  /-- An export has no nodes. -/
  | noNodes
  /-- No workflow has this id. -/
  | unknownWorkflow (id : Value)
  /-- Nothing was given to load workflows with. -/
  | noLoader
  /-- A rotation of no provider. -/
  | noProviders
  /-- A code fragment failed. -/
  | codeFailed (text : String)
  /-- A request failed, with the status of the response if there was one. -/
  | requestFailed (text : String) (status : Option Int)
  /-- A provider failed. -/
  | providerFailed (text : String)
  /-- A step failed; steps are counted from one. -/
  | stepFailed (index : Nat) (stepType : String) (cause : Fault)
  /-- A value of this kind does not offer this operation. -/
  | lacksOperation (kind : Kind) (operation : String)
  /-- A value of this kind has no items. -/
  | notIterable (kind : Kind)
  /-- A value of this kind has no parts. -/
  | notSubscriptable (kind : Kind)
  /-- A list was asked for a part by name. -/
  | namedListPart
  /-- A text was asked for a part by name. -/
  | namedTextPart
  /-- An object has no such member. -/
  | missingKey (key : Value)
  /-- A list ends before this place. -/
  | listTooShort
  /-- A text ends before this place. -/
  | textTooShort
  /-- A value of this kind is no number. -/
  | notANumber (kind : Kind)
  /-- A value of this kind is no integer. -/
  | notAnInteger (kind : Kind)
  /-- A text does not write an integer. -/
  | malformedInteger (text : String)
  /-- An integer has too many digits. -/
  | longInteger (digits : Nat)
  /-- A text does not write a number. -/
  | malformedNumber (text : String)
  /-- An infinity has no integer part. -/
  | infiniteInteger
  /-- A NaN has no integer part. -/
  | nanInteger
  /-- An integer is above every floating-point number. -/
  | integerTooLarge
  /-- An integer does not fit a column of the table. -/
  | columnTooNarrow
  /-- A value of this kind cannot be a name. -/
  | notAName (kind : Kind)
  /-- A text was expected, not a value of this kind. -/
  | notAText (kind : Kind)
  /-- A list of texts has an item of another kind. -/
  | notATextAt (index : Nat) (kind : Kind)
  /-- A column that must be filled is not. -/
  | emptyColumn
  /-- A value has no place in a column. -/
  | noColumn
  /-- An address is none. -/
  | badAddress (text : String)
  /-- A header has characters beyond ASCII; they stand from `start` up to before `stop`. -/
  | headerBeyondAscii (first : Char) (start stop : Nat)
  /-- A value of this kind is the value of a header, which must be a text. -/
  | headerNotText (kind : Kind)
  /-- An address has no scheme that says how it is reached. -/
  | unknownScheme (address : String)
  /-- The host of an address cannot be shown. -/
  | badHost (error : Host.LabelError)
  /-- A text in units of so many bits does not show which end of a unit comes first. -/
  | noByteOrder (bits : Nat)
deriving DecidableEq, Repr

/-- The kinds of faults. -/
inductive FaultKind
  | emptyWorkflow | unknownWorkflow | incomplete | code | request | provider | step
  | operation | wrongKind | key | place | wrongValue | overflow | integrity | binding | address
  | encoding | decoding | host | hostCharacter | hostContext | hostDirection
deriving DecidableEq, Repr

/-- The word for a kind of fault. -/
def FaultKind.word : FaultKind → String
  | .emptyWorkflow => "EmptyWorkflow"
  | .unknownWorkflow => "WorkflowNotFound"
  | .incomplete => "RuntimeError"
  | .code => "CodeExecutionError"
  | .request => "HttpRequestFailed"
  | .provider => "ProviderError"
  | .step => "StepExecutionFailed"
  | .operation => "AttributeError"
  | .wrongKind => "TypeError"
  | .key => "KeyError"
  | .place => "IndexError"
  | .wrongValue => "ValueError"
  | .overflow => "OverflowError"
  | .integrity => "IntegrityError"
  | .binding => "ProgrammingError"
  | .address => "InvalidURL"
  | .encoding => "UnicodeEncodeError"
  | .decoding => "UnicodeError"
  | .host => "IDNAError"
  | .hostCharacter => "InvalidCodepoint"
  | .hostContext => "InvalidCodepointContext"
  | .hostDirection => "IDNABidiError"

namespace Fault

/-- The message for a text that writes no integer in a base. It shows at most 200 characters of the
text. -/
def malformedIntegerMessage (base : Nat) (text : String) : String :=
  "invalid literal for int() with base " ++ toString base ++ ": " ++
    String.ofList ((Text.quoted text).toList.take 200)

/-- The message for a text that ASCII cannot write. A single character is shown by its number. -/
def beyondAsciiMessage (first : Char) (start stop : Nat) : String :=
  let place :=
    if stop = start + 1 then
      " '" ++ String.ofList (Text.numericEscape first) ++ "' in position " ++ toString start
    else "s in position " ++ toString start ++ "-" ++ toString (stop - 1)
  "'ascii' codec can't encode character" ++ place ++ ": ordinal not in range(128)"

/-- The message of a fault. -/
def message : Fault → String
  | noSteps => "Workflow has no steps"
  | noUsableSteps => "Workflow has no usable steps"
  | noNodes => "Imported workflow has no nodes"
  | unknownWorkflow id => "Workflow not found: " ++ id.display
  | noLoader => "WorkflowEngine.execute needs a workflow loader"
  | noProviders => "ProviderRotation needs at least one provider"
  | codeFailed text => text
  | requestFailed text _ => text
  | providerFailed text => text
  | stepFailed index stepType cause =>
    "Step " ++ toString index ++ " (" ++ stepType ++ ") failed: " ++ cause.message
  | lacksOperation kind operation =>
    "'" ++ kind.word ++ "' object has no attribute '" ++ operation ++ "'"
  | notIterable kind => "'" ++ kind.word ++ "' object is not iterable"
  | notSubscriptable kind => "'" ++ kind.word ++ "' object is not subscriptable"
  | namedListPart => "list indices must be integers or slices, not str"
  | namedTextPart => "string indices must be integers, not 'str'"
  | missingKey key => key.spelling
  | listTooShort => "list index out of range"
  | textTooShort => "string index out of range"
  | notANumber kind =>
    "float() argument must be a string or a real number, not '" ++ kind.word ++ "'"
  | notAnInteger kind =>
    "int() argument must be a string, a bytes-like object or a real number, not '" ++ kind.word ++
      "'"
  | malformedInteger text => malformedIntegerMessage 10 text
  | longInteger digits => (Json.ReadError.longInteger digits).message
  | malformedNumber text => "could not convert string to float: " ++ Text.quoted text
  | infiniteInteger => "cannot convert float infinity to integer"
  | nanInteger => "cannot convert float NaN to integer"
  | integerTooLarge => "int too large to convert to float"
  | columnTooNarrow => "Python int too large to convert to SQLite INTEGER"
  | notAName kind => "unhashable type: '" ++ kind.word ++ "'"
  | notAText kind => "expected string or bytes-like object, got '" ++ kind.word ++ "'"
  | notATextAt index kind =>
    "sequence item " ++ toString index ++ ": expected str instance, " ++ kind.word ++ " found"
  | emptyColumn | noColumn => ""
  | badAddress text => text
  | headerBeyondAscii first start stop => beyondAsciiMessage first start stop
  | headerNotText kind => "Header value must be str or bytes, not <class '" ++ kind.word ++ "'>"
  | unknownScheme address => "unknown url type: " ++ Text.quoted address
  | badHost error => error.message
  | noByteOrder bits => "UTF-" ++ toString bits ++ " stream does not start with BOM"

/-- The kind of a fault of a host. -/
def hostKind : Host.LabelError → FaultKind
  | .character _ _ _ => .hostCharacter
  | .context _ _ _ => .hostContext
  | .direction _ _ | .noDirection _ _ => .hostDirection
  | _ => .host

/-- The kind of a fault. -/
def kind : Fault → FaultKind
  | noSteps | noUsableSteps | noNodes => .emptyWorkflow
  | unknownWorkflow _ => .unknownWorkflow
  | noLoader => .incomplete
  | codeFailed _ => .code
  | requestFailed _ _ => .request
  | providerFailed _ => .provider
  | stepFailed _ _ _ => .step
  | lacksOperation _ _ => .operation
  | notIterable _ | notSubscriptable _ | namedListPart | namedTextPart | notANumber _
  | notAnInteger _ | notAName _ | notAText _ | notATextAt _ _ | headerNotText _ => .wrongKind
  | missingKey _ => .key
  | listTooShort | textTooShort => .place
  | malformedInteger _ | longInteger _ | malformedNumber _ | nanInteger | noProviders
  | unknownScheme _ => .wrongValue
  | infiniteInteger | integerTooLarge | columnTooNarrow => .overflow
  | emptyColumn => .integrity
  | noColumn => .binding
  | badAddress _ => .address
  | headerBeyondAscii _ _ _ => .encoding
  | badHost error => hostKind error
  | noByteOrder _ => .decoding

/-- The word for the kind of a fault. -/
def label (fault : Fault) : String := fault.kind.word

/-- A fault of a workflow or its steps, as against one of the values that they are made of. -/
def isOfWorkflow (fault : Fault) : Bool :=
  match fault.kind with
  | .emptyWorkflow | .unknownWorkflow | .code | .request | .provider | .step => true
  | _ => false

end Fault

end Workflows
