import EngineFit.Value.Literal

/-!
# Why a YAML text has no value

Reading a YAML text fails for one of two kinds of reasons. A `Fault` says that the text is not
a document of the format as this reader takes it: a character that may not appear, a token
that cannot start or stand where it is, a second document, an alias to no anchor, a tag with no
meaning. Callers report every fault with one fixed phrase, so the wording of `Fault.message`
is for people reading the library. A `ScalarError` says that the text is well formed but a
scalar does not denote a value of its tag: a date with a thirteenth month, `!!int` on a word,
a `\U` escape beyond the last code point. Those are reported word for word, in the wording of
the calendar and number rules they break.
-/

namespace EngineFit
namespace Yaml

/-- A reason a text is not a YAML document that this reader accepts. -/
inductive Fault where
  /-- A character outside the printable set of the format. -/
  | unprintable (c : Char)
  /-- A character that no token can start with. -/
  | noTokenStart (c : Char)
  /-- A key that must be a simple key ends its line without a `:`. -/
  | keyWithoutValue
  /-- A block sequence entry where no entry may start. -/
  | entryNotAllowed
  /-- A `?` key where no key may start. -/
  | keyNotAllowed
  /-- A `:` where no value may start. -/
  | valueNotAllowed
  /-- A directive line that does not follow the directive grammar. -/
  | badDirective
  /-- An anchor or alias name that is empty or ends in a character that cannot end it. -/
  | badAnchor
  /-- A tag that does not follow the tag grammar. -/
  | badTag
  /-- A block scalar header that does not follow the header grammar. -/
  | badBlockScalar
  /-- An unknown escape, or a code escape without enough hexadecimal digits. -/
  | badEscape
  /-- A quoted scalar that the text ends inside. -/
  | unclosedQuote
  /-- A document marker at the start of a line inside a quoted scalar. -/
  | separatorInQuote
  /-- A percent escape in a tag that is not two hexadecimal digits or not UTF-8. -/
  | badUriEscape
  /-- A token that the grammar does not allow where it stands. -/
  | unexpectedToken
  /-- A tag written with a handle that no directive declares. -/
  | undefinedTagHandle (handle : String)
  /-- A second `%YAML` directive for one document. -/
  | duplicateVersion
  /-- A `%YAML` directive for a major version other than 1. -/
  | incompatibleVersion (major : Nat)
  /-- A `%TAG` directive for a handle already declared. -/
  | duplicateTagHandle (handle : String)
  /-- An alias to an anchor that was not defined before it. -/
  | undefinedAlias (name : String)
  /-- An anchor name defined twice in one document. -/
  | duplicateAnchor (name : String)
  /-- A second document in the stream. -/
  | extraDocument
  /-- A mapping key that is a list or a mapping. -/
  | unhashableKey
  /-- A merge key whose value is not a mapping or a list of mappings. -/
  | badMerge
  /-- A tag that names no kind of value. -/
  | undefinedTag (tag : String)
  /-- A scalar tag on a collection. -/
  | notScalar
  /-- The sequence tag on a node that is not a sequence. -/
  | notSequence
  /-- The mapping tag on a node that is not a mapping. -/
  | notMapping
  /-- A binary scalar that is not ASCII base64 text. -/
  | badBinary
  /-- An item of ordered pairs that is not a mapping of one entry. -/
  | notPair
  /-- The reader ran out of steps; the step budget is the length of the text, which every
  text that can be read stays within. -/
  | stalled
deriving Repr, Inhabited

/-- The wording of a fault. -/
def Fault.message : Fault → String
  | .unprintable c => "special character " ++ Value.quote (String.singleton c) ++ " is not allowed"
  | .noTokenStart c =>
    "found character " ++ Value.quote (String.singleton c) ++ " that cannot start any token"
  | .keyWithoutValue => "could not find expected ':'"
  | .entryNotAllowed => "sequence entries are not allowed here"
  | .keyNotAllowed => "mapping keys are not allowed here"
  | .valueNotAllowed => "mapping values are not allowed here"
  | .badDirective => "malformed directive"
  | .badAnchor => "malformed anchor or alias"
  | .badTag => "malformed tag"
  | .badBlockScalar => "malformed block scalar header"
  | .badEscape => "found unknown escape character"
  | .unclosedQuote => "found unexpected end of stream"
  | .separatorInQuote => "found unexpected document separator"
  | .badUriEscape => "malformed URI escape"
  | .unexpectedToken => "did not find expected node content"
  | .undefinedTagHandle h => "found undefined tag handle " ++ Value.quote h
  | .duplicateVersion => "found duplicate YAML directive"
  | .incompatibleVersion _ => "found incompatible YAML document (version 1.* is required)"
  | .duplicateTagHandle h => "duplicate tag handle " ++ Value.quote h
  | .undefinedAlias n => "found undefined alias " ++ Value.quote n
  | .duplicateAnchor n => "found duplicate anchor " ++ Value.quote n
  | .extraDocument => "expected a single document in the stream"
  | .unhashableKey => "found unhashable key"
  | .badMerge => "expected a mapping or list of mappings for merging"
  | .undefinedTag t => "could not determine a constructor for the tag " ++ Value.quote t
  | .notScalar => "expected a scalar node"
  | .notSequence => "expected a sequence node"
  | .notMapping => "expected a mapping node"
  | .badBinary => "failed to decode base64 data"
  | .notPair => "expected a single mapping item"
  | .stalled => "the text is too deeply nested to read"

/-- Why a document has no value, other than a fault of its syntax or structure: a scalar whose
text does not denote a value of its tag, or nodes nested deeper than the reader follows. -/
inductive ScalarError where
  /-- A `\U` escape beyond the last code point. -/
  | codePoint
  /-- A year outside 1 to 9999. -/
  | yearOutOfRange (year : Nat)
  /-- A month outside 1 to 12. -/
  | monthOutOfRange
  /-- A day outside the days of its month. -/
  | dayOutOfRange
  /-- An hour above 23. -/
  | hourOutOfRange
  /-- A minute above 59. -/
  | minuteOutOfRange
  /-- A second above 59. -/
  | secondOutOfRange
  /-- A zone offset, in seconds, of a full day or more either way. -/
  | offsetOutOfRange (seconds : Int)
  /-- An integer tag on a text that is no integer literal in the base. -/
  | notInteger (base : Nat) (text : String)
  /-- A float tag on a text that is no decimal literal. -/
  | notFloat (text : String)
  /-- A boolean tag on a word that names no truth value. -/
  | notBoolean (word : String)
  /-- A number tag on an empty text, or on a lone sign. -/
  | emptyNumber
  /-- A timestamp tag on a text that is no date. -/
  | notTimestamp
  /-- An integer text with too many decimal digits to read. -/
  | tooLong (e : Number.DigitLimit)
  /-- A sexagesimal float with so many parts that the weight of its first part exceeds the
  range of doubles. -/
  | floatOverflow
  /-- Nodes nested deeper than the reader follows, or a mapping merged into itself. -/
  | tooDeep
  /-- Nodes nested so deep that the reader cannot even make the record of a position. -/
  | tooDeepToRecord
deriving Repr

/-- The wording of a scalar error, in the terms of the rule it breaks. -/
def ScalarError.message : ScalarError → String
  | .codePoint => "chr() arg not in range(0x110000)"
  | .yearOutOfRange y => "year " ++ toString y ++ " is out of range"
  | .monthOutOfRange => "month must be in 1..12"
  | .dayOutOfRange => "day is out of range for month"
  | .hourOutOfRange => "hour must be in 0..23"
  | .minuteOutOfRange => "minute must be in 0..59"
  | .secondOutOfRange => "second must be in 0..59"
  | .offsetOutOfRange s =>
    "offset must be a timedelta strictly between -timedelta(hours=24) and " ++
      "timedelta(hours=24), not " ++ Value.spanLiteral s ++ "."
  | .notInteger b t =>
    "invalid literal for int() with base " ++ toString b ++ ": " ++ Value.shortQuote t
  | .notFloat t => "could not convert string to float: " ++ Value.literal (.str t)
  | .notBoolean w => Value.literal (.str w)
  | .emptyNumber => "string index out of range"
  | .notTimestamp => "'NoneType' object has no attribute 'groupdict'"
  | .tooLong e => e.message
  | .floatOverflow => "int too large to convert to float"
  | .tooDeep => "maximum recursion depth exceeded"
  | .tooDeepToRecord => "maximum recursion depth exceeded while calling a Python object"

/-- Why a YAML text has no value: a fault of the text, or a scalar that denotes nothing. -/
inductive ReadError where
  | fault (f : Fault)
  | scalar (e : ScalarError)
deriving Repr

end Yaml
end EngineFit
