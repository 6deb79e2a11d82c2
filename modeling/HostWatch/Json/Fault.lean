import HostWatch.Json.Printer
import HostWatch.Text.Quoted

/-!
# What can be wrong with a JSON text

A fault is either one of the text itself, which has a place, or one of the data: the text is good
JSON, but not the value that was asked for. The four faults of a text that just ends are kept
apart from the others, because more bytes may mend them.
-/

namespace HostWatch.Json

/-- What stands where another kind of value was expected. -/
inductive Found where
  | null
  | bool (value : Bool)
  | int (value : Int)
  | float (value : Float)
  | str (value : String)
  | sequence
  | map

/-- How a found value is named in a message. -/
def Found.describe : Found → String
  | .null => "null"
  | .bool b => "boolean `" ++ (if b then "true" else "false") ++ "`"
  | .int n => "integer `" ++ toString n ++ "`"
  | .float x => "floating point `" ++ floatText x ++ "`"
  | .str s => "string " ++ Text.debugQuote s
  | .sequence => "sequence"
  | .map => "map"

/-- What a value is when it stands where another kind was expected. -/
def found : Json → Found
  | .null => .null
  | .bool b => .bool b
  | .int n => .int n
  | .float x => .float x
  | .str s => .str s
  | .arr _ => .sequence
  | .obj _ => .map

/-- A value that is not what was asked for. -/
inductive DataFault where
  | missingField (name : String)
  | duplicateField (name : String)
  | unknownVariant (name : String) (known : List String)
  | invalidType (found : Found) (expected : String)
  | invalidValue (found : Found) (expected : String)
  | invalidLength (length : Nat) (expected : String)
  | illegalTime (seconds : Int)

/-- The names of a choice, each in backticks, with commas between them. -/
def quotedNames (names : List String) : String :=
  ", ".intercalate (names.map fun n => "`" ++ n ++ "`")

/-- The message of a fault of the data. -/
def DataFault.message : DataFault → String
  | .missingField n => "missing field `" ++ n ++ "`"
  | .duplicateField n => "duplicate field `" ++ n ++ "`"
  | .unknownVariant n known =>
    "unknown variant `" ++ n ++ "`, expected one of " ++ quotedNames known
  | .invalidType f e => "invalid type: " ++ f.describe ++ ", expected " ++ e
  | .invalidValue f e => "invalid value: " ++ f.describe ++ ", expected " ++ e
  | .invalidLength n e => "invalid length " ++ toString n ++ ", expected " ++ e
  | .illegalTime t => "value is not a legal timestamp: " ++ toString t

/-- What is wrong at some place of a text. -/
inductive Fault where
  | endInValue
  | endInList
  | endInObject
  | endInString
  | expectedColon
  | expectedListCommaOrEnd
  | expectedObjectCommaOrEnd
  | expectedWord
  | expectedValue
  | invalidEscape
  | invalidNumber
  | numberOutOfRange
  | invalidCodePoint
  | controlCharacter
  | keyMustBeString
  | loneSurrogate
  | trailingComma
  | trailingCharacters
  | unfinishedSurrogate
  | tooDeep
  | data (fault : DataFault)

/-- The text ended before the value did: it may be the beginning of a good one. -/
def Fault.IsEnd : Fault → Prop
  | .endInValue | .endInList | .endInObject | .endInString => True
  | _ => False

instance : DecidablePred Fault.IsEnd := fun f => by
  cases f <;> unfold Fault.IsEnd <;> infer_instance

/-- The message of a fault, without its place. -/
def Fault.message : Fault → String
  | .endInValue => "EOF while parsing a value"
  | .endInList => "EOF while parsing a list"
  | .endInObject => "EOF while parsing an object"
  | .endInString => "EOF while parsing a string"
  | .expectedColon => "expected `:`"
  | .expectedListCommaOrEnd => "expected `,` or `]`"
  | .expectedObjectCommaOrEnd => "expected `,` or `\x7d`"
  | .expectedWord => "expected ident"
  | .expectedValue => "expected value"
  | .invalidEscape => "invalid escape"
  | .invalidNumber => "invalid number"
  | .numberOutOfRange => "number out of range"
  | .invalidCodePoint => "invalid unicode code point"
  | .controlCharacter => "control character (\\u0000-\\u001F) found while parsing a string"
  | .keyMustBeString => "key must be a string"
  | .loneSurrogate => "lone leading surrogate in hex escape"
  | .trailingComma => "trailing comma"
  | .trailingCharacters => "trailing characters"
  | .unfinishedSurrogate => "unexpected end of hex escape"
  | .tooDeep => "recursion limit exceeded"
  | .data f => f.message

/-- A place in a text: the line, counted from 1, and the bytes before it on that line. -/
structure Place where
  line : Nat
  column : Nat
  deriving Repr, DecidableEq

/-- A fault with its place. -/
structure Failure where
  fault : Fault
  place : Place

/-- The message of a fault with its place. -/
def Failure.message (f : Failure) : String :=
  f.fault.message ++ " at line " ++ toString f.place.line ++ " column " ++ toString f.place.column

end HostWatch.Json
