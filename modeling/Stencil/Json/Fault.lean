/-
This file says what can be wrong with a JSON source and where. A fault carries its
cause and how many bytes of the source had not been read when it was seen, so the
readers need not count what they have read. The place that is reported counts
lines from one and, within the line, the bytes read since its start.
-/

import Stencil.Text.Position

namespace Stencil

namespace Json

/-- Why a source is no JSON document. -/
inductive Cause where
  | endOfValue
  | endOfList
  | endOfObject
  | endOfString
  | expectedValue
  | expectedWord
  | expectedColon
  | expectedListEnd
  | expectedObjectEnd
  | keyNoString
  | trailingComma
  | trailingCharacters
  | controlCharacter
  | invalidEscape
  | brokenSurrogatePair
  | loneSurrogate
  | invalidNumber
  | numberOutOfRange
  | tooDeep
  deriving DecidableEq, Repr

namespace Cause

/-- The text that reports a cause. -/
def message : Cause → String
  | endOfValue => "EOF while parsing a value"
  | endOfList => "EOF while parsing a list"
  | endOfObject => "EOF while parsing an object"
  | endOfString => "EOF while parsing a string"
  | expectedValue => "expected value"
  | expectedWord => "expected ident"
  | expectedColon => "expected `:`"
  | expectedListEnd => "expected `,` or `]`"
  | expectedObjectEnd => "expected `,` or `\x7d`"
  | keyNoString => "key must be a string"
  | trailingComma => "trailing comma"
  | trailingCharacters => "trailing characters"
  | controlCharacter => "control character (\\u0000-\\u001F) found while parsing a string"
  | invalidEscape => "invalid escape"
  | brokenSurrogatePair => "unexpected end of hex escape"
  | loneSurrogate => "lone leading surrogate in hex escape"
  | invalidNumber => "invalid number"
  | numberOutOfRange => "number out of range"
  | tooDeep => "recursion limit exceeded"

/-- Whether the source only ended too early. -/
def isEnd : Cause → Bool
  | endOfValue | endOfList | endOfObject | endOfString => true
  | _ => false

end Cause

/-- A cause, and the bytes of the source that were not read yet when it was seen. -/
structure Fault where
  cause : Cause
  unread : Nat
  deriving DecidableEq, Repr

namespace Fault

/-- A fault seen before anything more is read. -/
def before (cause : Cause) (rest : Text) : Fault :=
  ⟨cause, rest.size⟩

/-- A fault seen in the next byte, which counts as read; at the end there is none. -/
def within (cause : Cause) (rest : Text) : Fault :=
  ⟨cause, rest.size - 1⟩

/-- The bytes that were read when a fault was seen. -/
def offset (source : Text) (fault : Fault) : Nat :=
  source.size - fault.unread

/-- The text that was read when a fault was seen, a character begun included. -/
def consumed (source : Text) (fault : Fault) : Text :=
  source.takeBytes (fault.offset source)

/-- The line of a fault, counted from one. -/
def line (source : Text) (fault : Fault) : Nat :=
  (fault.consumed source).count '\n' + 1

/-- The bytes read since the start of the line of a fault. -/
def column (source : Text) (fault : Fault) : Nat :=
  fault.offset source - ((fault.consumed source).size - (fault.consumed source).lastLine.size)

/-- The text that reports a fault with its place. -/
def message (source : Text) (fault : Fault) : String :=
  s!"{fault.cause.message} at line {fault.line source} column {fault.column source}"

end Fault

end Json

end Stencil
