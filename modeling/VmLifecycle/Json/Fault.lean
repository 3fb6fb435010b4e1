import VmLifecycle.Decimal.Shortest
import VmLifecycle.Text.Quoted

namespace VmLifecycle.Json

inductive Found where
  | null
  | bool (value : Bool)
  | integer (value : Int)
  | real (value : Float)
  | string (text : String)
  | list
  | object
  deriving Repr

def Found.message : Found → String
  | .null => "null"
  | .bool true => "boolean `true`"
  | .bool false => "boolean `false`"
  | .integer value => "integer `" ++ toString value ++ "`"
  | .real value => "floating point `" ++ Decimal.ofFloat value ++ "`"
  | .string text => "string " ++ quoted text
  | .list => "sequence"
  | .object => "map"

inductive Fault where
  | endInList
  | endInObject
  | endInString
  | endInValue
  | expectedColon
  | expectedListEnd
  | expectedObjectEnd
  | expectedWord
  | expectedValue
  | invalidEscape
  | invalidNumber
  | numberOutOfRange
  | controlCharacter
  | keyNotString
  | loneSurrogate
  | unfinishedPair
  | trailingComma
  | trailingCharacters
  | tooDeep
  | wrongKind (found : Found) (expected : String)
  | missingField (name : String)
  | duplicateField (name : String)
  | shortList (length : Nat) (expected : String)
  | unknownVariant (name : String) (known : List String)
  | rejected (reason : String)
  deriving Repr

def Fault.message : Fault → String
  | .endInList => "EOF while parsing a list"
  | .endInObject => "EOF while parsing an object"
  | .endInString => "EOF while parsing a string"
  | .endInValue => "EOF while parsing a value"
  | .expectedColon => "expected `:`"
  | .expectedListEnd => "expected `,` or `]`"
  | .expectedObjectEnd => "expected `,` or `\x7d`"
  | .expectedWord => "expected ident"
  | .expectedValue => "expected value"
  | .invalidEscape => "invalid escape"
  | .invalidNumber => "invalid number"
  | .numberOutOfRange => "number out of range"
  | .controlCharacter =>
      "control character (\\u0000-\\u001F) found while parsing a string"
  | .keyNotString => "key must be a string"
  | .loneSurrogate => "lone leading surrogate in hex escape"
  | .unfinishedPair => "unexpected end of hex escape"
  | .trailingComma => "trailing comma"
  | .trailingCharacters => "trailing characters"
  | .tooDeep => "recursion limit exceeded"
  | .wrongKind found expected =>
      "invalid type: " ++ found.message ++ ", expected " ++ expected
  | .missingField name => "missing field `" ++ name ++ "`"
  | .duplicateField name => "duplicate field `" ++ name ++ "`"
  | .shortList length expected =>
      "invalid length " ++ toString length ++ ", expected " ++ expected
  | .unknownVariant name known =>
      "unknown variant `" ++ name ++ "`, expected one of " ++
        ", ".intercalate (known.map fun variant => "`" ++ variant ++ "`")
  | .rejected reason => reason

/-- A place in a text: lines count from one, columns are the bytes before the place in its line. -/
structure Position where
  line : Nat
  column : Nat
  deriving DecidableEq, Repr

def Position.advance (position : Position) : List Char → Nat → Position
  | _, 0 => position
  | [], _ + 1 => position
  | c :: rest, bytes + 1 =>
      if c = '\n' then Position.advance ⟨position.line + 1, 0⟩ rest bytes
      else
        Position.advance { position with column := position.column + min c.utf8Size (bytes + 1) }
          rest (bytes + 1 - c.utf8Size)

def Position.ofOffset (text : List Char) (bytes : Nat) : Position :=
  Position.advance ⟨1, 0⟩ text bytes

structure Error where
  fault : Fault
  position? : Option Position
  deriving Repr

def Error.message (error : Error) : String :=
  match error.position? with
  | none => error.fault.message
  | some position =>
      error.fault.message ++ " at line " ++ toString position.line ++
        " column " ++ toString position.column

end VmLifecycle.Json
