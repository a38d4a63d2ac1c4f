/-
This file reads JSON documents. A reader takes a document off the front of a text
and returns what is left, which is always shorter, so the readers of lists and
objects end. Containers may stand within one another to a fixed depth: the reader
of a container is built from the reader for one level less, and with no level left
a container is a fault. Of two members of an object with one name the last counts.
-/

import Stencil.Json.Basic
import Stencil.Json.Number
import Stencil.Json.Quoted

namespace Stencil

namespace Json

/-- A text shorter than another. -/
abbrev Rest (source : Text) := { rest : Text // rest.length < source.length }

/-- What was read from the front of a text and what is left of it, or a fault. -/
abbrev Reading (Item : Type) (source : Text) := Except Fault (Item × Rest source)

/-- A reading of the end of a text counts as one of the whole text. -/
def Reading.widen {Item : Type} {inner outer : Text} (bound : inner.length ≤ outer.length)
    (reading : Reading Item inner) : Reading Item outer :=
  reading.map fun read => (read.1, ⟨read.2.1, Nat.lt_of_lt_of_le read.2.2 bound⟩)

/-! ### Blanks between the parts -/

/-- Whether a character may stand between the parts of a document. -/
def isSpace (character : Char) : Bool :=
  character = ' ' || character = '\n' || character = '\t' || character = '\r'

/-- The text without the spaces at its front. -/
def skipSpaces (source : Text) : Text :=
  source.dropWhile isSpace

theorem length_skipSpaces_le (source : Text) : (skipSpaces source).length ≤ source.length :=
  (List.dropWhile_sublist isSpace).length_le

theorem length_lt_of_skipSpaces {source rest : Text} {character : Char}
    (front : skipSpaces source = character :: rest) : rest.length < source.length := by
  have bound := length_skipSpaces_le source
  rw [front, List.length_cons] at bound
  omega

/-! ### Words -/

/-- The text behind a word that must stand at its front. -/
def readWord : Text → Text → Except Fault Text
  | [], source => .ok source
  | _ :: _, [] => .error ⟨.endOfValue, 0⟩
  | expected :: word, character :: rest =>
    if character = expected then readWord word rest
    else .error (.within .expectedWord (character :: rest))

theorem length_le_of_readWord {word source rest : Text} (read : readWord word source = .ok rest) :
    rest.length ≤ source.length := by
  induction word generalizing source with
  | nil =>
    obtain rfl : source = rest := by simpa [readWord] using read
    exact Nat.le_refl _
  | cons expected word inductionHypothesis =>
    cases source with
    | nil => simp [readWord] at read
    | cons character tail =>
      rw [readWord] at read
      split at read
      · have bound := inductionHypothesis read
        rw [List.length_cons]
        omega
      · simp at read

/-- The document that a word stands for, behind the first letter of the word. -/
def readNamed (document : Json) (word source : Text) :
    Except Fault (Json × { rest : Text // rest.length ≤ source.length }) :=
  match read : readWord word source with
  | .error fault => .error fault
  | .ok rest => .ok (document, ⟨rest, length_le_of_readWord read⟩)

/-! ### Lists -/

/-- The items of a list behind one that was read. -/
def readMoreItems (readItem : (source : Text) → Reading Json source) (source : Text) :
    Reading (List Json) source :=
  match front : skipSpaces source with
  | [] => .error ⟨.endOfList, 0⟩
  | character :: rest =>
    have shorter := length_lt_of_skipSpaces front
    if character = ']' then .ok ([], ⟨rest, shorter⟩)
    else if character = ',' then
      match skipSpaces rest with
      | [] => .error ⟨.endOfValue, 0⟩
      | next :: behind =>
        if next = ']' then .error (.within .trailingComma (next :: behind))
        else
          match readItem rest with
          | .error fault => .error fault
          | .ok (item, later) =>
            have latest := Nat.lt_trans later.2 shorter
            (readMoreItems readItem later.1).map fun read =>
              (item :: read.1, ⟨read.2.1, Nat.lt_trans read.2.2 latest⟩)
    else .error (.within .expectedListEnd (character :: rest))
termination_by source.length

/-- The items of a list behind its opening bracket. -/
def readItems (readItem : (source : Text) → Reading Json source) (source : Text) :
    Reading (List Json) source :=
  match front : skipSpaces source with
  | [] => .error ⟨.endOfList, 0⟩
  | character :: rest =>
    if character = ']' then .ok ([], ⟨rest, length_lt_of_skipSpaces front⟩)
    else
      match readItem source with
      | .error fault => .error fault
      | .ok (item, later) =>
        (readMoreItems readItem later.1).map fun read =>
          (item :: read.1, ⟨read.2.1, Nat.lt_trans read.2.2 later.2⟩)

/-! ### Objects -/

/-- The member of an object behind the opening quote of its name. -/
def readMember (readItem : (source : Text) → Reading Json source) (source : Text) :
    Reading (Text × Json) source :=
  match named : readString source with
  | .error fault => .error fault
  | .ok (name, afterName) =>
    match front : skipSpaces afterName with
    | [] => .error ⟨.endOfObject, 0⟩
    | character :: rest =>
      if character = ':' then
        have shorter := Nat.lt_trans (length_lt_of_skipSpaces front) (length_lt_of_readString named)
        ((readItem rest).widen (Nat.le_of_lt shorter)).map fun read => ((name, read.1), read.2)
      else .error (.within .expectedColon (character :: rest))

/-- The members of an object behind one that was read. -/
def readMoreMembers (readItem : (source : Text) → Reading Json source) (source : Text) :
    Reading (List (Text × Json)) source :=
  match front : skipSpaces source with
  | [] => .error ⟨.endOfObject, 0⟩
  | character :: rest =>
    have shorter := length_lt_of_skipSpaces front
    if character = '}' then .ok ([], ⟨rest, shorter⟩)
    else if character = ',' then
      match next : skipSpaces rest with
      | [] => .error ⟨.endOfValue, 0⟩
      | opening :: inside =>
        if opening = '"' then
          match readMember readItem inside with
          | .error fault => .error fault
          | .ok (member, later) =>
            have latest := Nat.lt_trans later.2 (Nat.lt_trans (length_lt_of_skipSpaces next) shorter)
            (readMoreMembers readItem later.1).map fun read =>
              (member :: read.1, ⟨read.2.1, Nat.lt_trans read.2.2 latest⟩)
        else if opening = '}' then .error (.within .trailingComma (opening :: inside))
        else .error (.within .keyNoString (opening :: inside))
    else .error (.within .expectedObjectEnd (character :: rest))
termination_by source.length

/-- The members of an object behind its opening brace. -/
def readMembers (readItem : (source : Text) → Reading Json source) (source : Text) :
    Reading (List (Text × Json)) source :=
  match front : skipSpaces source with
  | [] => .error ⟨.endOfObject, 0⟩
  | character :: rest =>
    have shorter := length_lt_of_skipSpaces front
    if character = '}' then .ok ([], ⟨rest, shorter⟩)
    else if character = '"' then
      match readMember readItem rest with
      | .error fault => .error fault
      | .ok (member, later) =>
        have latest := Nat.lt_trans later.2 shorter
        (readMoreMembers readItem later.1).map fun read =>
          (member :: read.1, ⟨read.2.1, Nat.lt_trans read.2.2 latest⟩)
    else .error (.within .keyNoString (character :: rest))

/-! ### Documents -/

/-- The document at the front of a text, in which containers may stand within one another
to the given depth. -/
def readValue (depth : Nat) (source : Text) : Reading Json source :=
  match front : skipSpaces source with
  | [] => .error ⟨.endOfValue, 0⟩
  | character :: rest =>
    have shorter := length_lt_of_skipSpaces front
    let named := fun (document : Json) (word : Text) =>
      (readNamed document word rest).map fun read =>
        (read.1, ⟨read.2.1, Nat.lt_of_le_of_lt read.2.2 shorter⟩)
    if character = 'n' then named .null ['u', 'l', 'l']
    else if character = 't' then named (.boolean true) ['r', 'u', 'e']
    else if character = 'f' then named (.boolean false) ['a', 'l', 's', 'e']
    else if character = '-' then
      match read : readNumber rest with
      | .error fault => .error fault
      | .ok later =>
        .ok (.number ((character :: rest).take (rest.length + 1 - later.length)),
          ⟨later, Nat.lt_trans (length_lt_of_readNumber read) shorter⟩)
    else if character.isDigit then
      match read : readNumber (character :: rest) with
      | .error fault => .error fault
      | .ok later =>
        have bound : (character :: rest).length ≤ source.length := front ▸ length_skipSpaces_le source
        .ok (.number ((character :: rest).take (rest.length + 1 - later.length)),
          ⟨later, Nat.lt_of_lt_of_le (length_lt_of_readNumber read) bound⟩)
    else if character = '"' then
      match read : readString rest with
      | .error fault => .error fault
      | .ok (content, later) =>
        .ok (.string content, ⟨later, Nat.lt_trans (length_lt_of_readString read) shorter⟩)
    else if character = '[' then
      match depth with
      | 0 => .error (.within .tooDeep (character :: rest))
      | level + 1 =>
        ((readItems (readValue level) rest).widen (Nat.le_of_lt shorter)).map fun read =>
          (.array read.1, read.2)
    else if character = '{' then
      match depth with
      | 0 => .error (.within .tooDeep (character :: rest))
      | level + 1 =>
        ((readMembers (readValue level) rest).widen (Nat.le_of_lt shorter)).map fun read =>
          (.object (Fields.ofList read.1), read.2)
    else .error (.within .expectedValue (character :: rest))

/-- The most containers that may stand within one another. -/
def maximalDepth : Nat := 127

/-- The fault of anything but spaces behind a document. -/
def trailing? (rest : Text) : Option Fault :=
  match skipSpaces rest with
  | [] => none
  | character :: behind => some (.within .trailingCharacters (character :: behind))

/-- The document that a whole text is. -/
def read (source : Text) : Except Fault Json :=
  match readValue maximalDepth source with
  | .error fault => .error fault
  | .ok (document, rest) =>
    match trailing? rest.1 with
    | some fault => .error fault
    | none => .ok document

end Json

end Stencil
