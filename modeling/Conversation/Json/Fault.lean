import Conversation.Json.Place
import Conversation.Text.Quoted

namespace Conversation.Json

def tick (name : String) : String := "`" ++ name ++ "`"

def Found.text : Found → String
  | .null => "null"
  | .bool value => "boolean " ++ tick (if value then "true" else "false")
  | .number (.integer value) => "integer " ++ tick (Text.integer value)
  | .number (.real value) => "floating point " ++ tick (Number.realFormat.text value)
  | .string value => "string " ++ Text.quoted value
  | .sequence => "sequence"
  | .map => "map"
  | .bareVariant => "unit variant"

def oneOf : List String → String
  | [] => "there are no variants"
  | [name] => "expected " ++ tick name
  | [name, other] => "expected " ++ tick name ++ " or " ++ tick other
  | names => "expected one of " ++ ", ".intercalate (names.map tick)

def Cause.text : Cause → String
  | .endInValue => "EOF while parsing a value"
  | .endInString => "EOF while parsing a string"
  | .endInList => "EOF while parsing a list"
  | .endInObject => "EOF while parsing an object"
  | .expectedColon => "expected `:`"
  | .expectedListCommaOrEnd => "expected `,` or `]`"
  | .expectedObjectCommaOrEnd => "expected `,` or `\x7d`"
  | .expectedValue => "expected value"
  | .expectedWord => "expected ident"
  | .keyMustBeString => "key must be a string"
  | .trailingComma => "trailing comma"
  | .trailingCharacters => "trailing characters"
  | .invalidNumber => "invalid number"
  | .numberOutOfRange => "number out of range"
  | .invalidEscape => "invalid escape"
  | .controlCharacter => "control character (\\u0000-\\u001F) found while parsing a string"
  | .unexpectedEndOfEscape => "unexpected end of hex escape"
  | .loneSurrogate => "lone leading surrogate in hex escape"
  | .recursionLimit => "recursion limit exceeded"
  | .numericKey => "invalid value: expected key to be a number in quotes"
  | .invalidType found expected => "invalid type: " ++ found.text ++ ", expected " ++ expected
  | .invalidValue found expected => "invalid value: " ++ found.text ++ ", expected " ++ expected
  | .invalidLength length expected =>
      "invalid length " ++ Text.decimal length ++ ", expected " ++ expected
  | .missingField name => "missing field " ++ tick name
  | .duplicateField name => "duplicate field " ++ tick name
  | .unknownVariant name variants => "unknown variant " ++ tick name ++ ", " ++ oneOf variants

def Fault.text (fault : Fault) : String :=
  fault.cause.text ++
    (match fault.place with
     | some place =>
         " at line " ++ Text.decimal place.line ++ " column " ++ Text.decimal place.column
     | none => "")

end Conversation.Json
