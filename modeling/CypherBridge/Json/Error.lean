/-!
# What can be wrong with a JSON text

Each fault has a cause and a position. Lines count from 1; the column is the number of
bytes read on the line.
-/

namespace CypherBridge.Json

structure Position where
  line : Nat
  column : Nat
  deriving DecidableEq, Repr

namespace Position

def start : Position := ⟨1, 0⟩

def past (p : Position) (c : Char) : Position :=
  if c = '\n' then ⟨p.line + 1, 0⟩ else { p with column := p.column + c.utf8Size }

def pastByte (p : Position) (c : Char) : Position :=
  if c = '\n' then ⟨p.line + 1, 0⟩ else { p with column := p.column + 1 }

end Position

inductive Cause where
  | endInValue
  | endInString
  | endInList
  | endInObject
  | expectedColon
  | expectedCommaInList
  | expectedCommaInObject
  | expectedIdentifier
  | expectedValue
  | invalidEscape
  | invalidNumber
  | numberOutOfRange
  | loneSurrogate
  | unfinishedSurrogatePair
  | keyNotString
  | controlCharacter
  | trailingComma
  | trailingCharacters
  | nestedTooDeep
  deriving DecidableEq, Repr

def Cause.message : Cause → String
  | .endInValue => "EOF while parsing a value"
  | .endInString => "EOF while parsing a string"
  | .endInList => "EOF while parsing a list"
  | .endInObject => "EOF while parsing an object"
  | .expectedColon => "expected `:`"
  | .expectedCommaInList => "expected `,` or `]`"
  | .expectedCommaInObject => "expected `,` or `\x7d`"
  | .expectedIdentifier => "expected ident"
  | .expectedValue => "expected value"
  | .invalidEscape => "invalid escape"
  | .invalidNumber => "invalid number"
  | .numberOutOfRange => "number out of range"
  | .loneSurrogate => "lone leading surrogate in hex escape"
  | .unfinishedSurrogatePair => "unexpected end of hex escape"
  | .keyNotString => "key must be a string"
  | .controlCharacter => "control character (\\u0000-\\u001F) found while parsing a string"
  | .trailingComma => "trailing comma"
  | .trailingCharacters => "trailing characters"
  | .nestedTooDeep => "recursion limit exceeded"

structure SyntaxError where
  cause : Cause
  position : Position
  deriving DecidableEq, Repr

def positionText (p : Position) : String := s!" at line {p.line} column {p.column}"

def SyntaxError.message (e : SyntaxError) : String :=
  e.cause.message ++ positionText e.position

end CypherBridge.Json
