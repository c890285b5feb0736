import PromptWeave.Json.Basic
import PromptWeave.Text.Quoted

/-! The ways in which a text fails to be JSON of an expected form. -/

namespace PromptWeave

namespace Json

/-- What was not finished where the text ended. -/
inductive Unfinished where
  | value
  | object
  | list
  | string

/-- What was found where something else was expected. -/
inductive Found where
  | null
  | flag (value : Bool)
  | number (value : Number)
  | text (value : Text)
  | sequence
  | map

/-- A reason for refusing a text. -/
inductive Fault where
  /-- The text ends too early. -/
  | unfinished (what : Unfinished)
  | expectedValue
  /-- A word begins like one of the three that JSON knows, and goes on differently. -/
  | expectedWord
  | expectedColon
  | expectedCommaOrBrace
  | expectedCommaOrBracket
  | keyMustBeString
  | trailingComma
  | trailingCharacters
  | invalidEscape
  | unfinishedSurrogatePair
  | loneSurrogate
  | controlCharacter
  | invalidNumber
  | numberOutOfRange
  | nestedTooDeep
  | invalidType (found : Found) (wanted : Text)
  | invalidValue (found : Found) (wanted : Text)
  | invalidLength (length : Nat) (wanted : Text)
  | missingField (key : Text)
  | duplicateField (key : Text)
  | unknownField (key : Text) (known : List Text)
  | unknownVariant (name : Text) (known : List Text)

/-- What kind of reason it is. -/
inductive Fault.Category where
  /-- The text ends too early. -/
  | ended
  /-- The text is not JSON. -/
  | form
  /-- The text is JSON, but its data are not those expected. -/
  | data
deriving DecidableEq

/-- The kind of a reason. -/
def Fault.category : Fault → Category
  | unfinished _ => .ended
  | invalidType .. | invalidValue .. | invalidLength .. | missingField _ | duplicateField _
  | unknownField .. | unknownVariant .. => .data
  | _ => .form

/-- The phrase for what was not finished. -/
def Unfinished.phrase : Unfinished → Text
  | value => "a value".toList
  | object => "an object".toList
  | list => "a list".toList
  | string => "a string".toList

/-- A text between backticks. -/
def ticked (s : Text) : Text :=
  '\x60' :: s ++ ['\x60']

/-- The phrase for what was found. -/
def Found.phrase : Found → Text
  | null => "null".toList
  | flag b => "boolean ".toList ++ ticked (if b then "true".toList else "false".toList)
  | number (.integer n) => "integer ".toList ++ ticked (Text.ofInt n)
  | number (.float x) => "floating point ".toList ++ ticked (Number.float x).text
  | text s => "string ".toList ++ Text.quoted s
  | sequence => "sequence".toList
  | map => "map".toList

/-- The phrase for a choice of names. -/
def choicePhrase : List Text → Text
  | [a] => ticked a
  | [a, b] => ticked a ++ " or ".toList ++ ticked b
  | names => "one of ".toList ++ ", ".toList.intercalate (names.map ticked)

/-- The message for a reason. -/
def Fault.message : Fault → Text
  | unfinished what => "EOF while parsing ".toList ++ what.phrase
  | expectedValue => "expected value".toList
  | expectedWord => "expected ident".toList
  | expectedColon => "expected `:`".toList
  | expectedCommaOrBrace => "expected `,` or `\x7d`".toList
  | expectedCommaOrBracket => "expected `,` or `]`".toList
  | keyMustBeString => "key must be a string".toList
  | trailingComma => "trailing comma".toList
  | trailingCharacters => "trailing characters".toList
  | invalidEscape => "invalid escape".toList
  | unfinishedSurrogatePair => "unexpected end of hex escape".toList
  | loneSurrogate => "lone leading surrogate in hex escape".toList
  | controlCharacter =>
    "control character (\\u0000-\\u001F) found while parsing a string".toList
  | invalidNumber => "invalid number".toList
  | numberOutOfRange => "number out of range".toList
  | nestedTooDeep => "recursion limit exceeded".toList
  | invalidType found wanted =>
    "invalid type: ".toList ++ found.phrase ++ ", expected ".toList ++ wanted
  | invalidValue found wanted =>
    "invalid value: ".toList ++ found.phrase ++ ", expected ".toList ++ wanted
  | invalidLength length wanted =>
    "invalid length ".toList ++ Text.ofNat length ++ ", expected ".toList ++ wanted
  | missingField key => "missing field ".toList ++ ticked key
  | duplicateField key => "duplicate field ".toList ++ ticked key
  | unknownField key known =>
    "unknown field ".toList ++ ticked key ++ ", expected ".toList ++ choicePhrase known
  | unknownVariant name known =>
    "unknown variant ".toList ++ ticked name ++ ", expected ".toList ++ choicePhrase known

end Json

end PromptWeave
