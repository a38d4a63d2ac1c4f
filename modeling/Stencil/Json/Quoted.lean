/-
This file writes the content of a JSON string and reads it back. Written, a quote,
a backslash and a control character are escaped and every other character stands
for itself. Read, every escape of the format is understood, also those that are
never written: a character beyond the first plane may be escaped as two
surrogates, and a surrogate alone is a fault. Reading what was written gives the
content back.
-/

import Stencil.Json.Fault

namespace Stencil

namespace Json

/-! ### Writing -/

/-- The digit of a value below sixteen. -/
def hexDigit (value : Nat) : Char :=
  if value < 10 then Char.ofNat ('0'.toNat + value) else Char.ofNat ('a'.toNat + (value - 10))

/-- The letter that stands for a character behind a backslash, if one does. -/
def shortEscape? : Char → Option Char
  | '"' => some '"'
  | '\\' => some '\\'
  | '\x08' => some 'b'
  | '\x0c' => some 'f'
  | '\n' => some 'n'
  | '\r' => some 'r'
  | '\t' => some 't'
  | _ => none

/-- A character as it stands between quotes. -/
def escape (character : Char) : Text :=
  match shortEscape? character with
  | some letter => ['\\', letter]
  | none =>
    if character.toNat < 0x20 then
      ['\\', 'u', '0', '0', hexDigit (character.toNat / 16), hexDigit (character.toNat % 16)]
    else [character]

/-- A text as a JSON string, quotes included. -/
def quote (content : Text) : Text :=
  '"' :: content.flatMap escape ++ ['"']

/-! ### Reading -/

/-- The value of a digit in the base sixteen, of either case. -/
def hexValue? (character : Char) : Option Nat :=
  if character.isDigit then some (character.toNat - '0'.toNat)
  else if 'a' ≤ character ∧ character ≤ 'f' then some (character.toNat - 'a'.toNat + 10)
  else if 'A' ≤ character ∧ character ≤ 'F' then some (character.toNat - 'A'.toNat + 10)
  else none

/-- The number that four digits in the base sixteen make. -/
def fourHex? (first second third fourth : Char) : Option Nat :=
  (hexValue? first).bind fun a => (hexValue? second).bind fun b =>
    (hexValue? third).bind fun c => (hexValue? fourth).map fun d =>
      ((a * 16 + b) * 16 + c) * 16 + d

/-- The number that the next four bytes spell. -/
def readHex (source : Text) : Except Fault (Nat × Text) :=
  if source.size < 4 then .error ⟨.endOfString, 0⟩
  else
    match source with
    | first :: second :: third :: fourth :: rest =>
      match fourHex? first second third fourth with
      | some value => .ok (value, rest)
      | none => .error ⟨.invalidEscape, source.size - 4⟩
    | _ => .error ⟨.invalidEscape, source.size - 4⟩

/-- Whether a number is the first, or the second, of a pair of surrogates. -/
def isLeading (value : Nat) : Bool :=
  0xD800 ≤ value && value ≤ 0xDBFF

@[inherit_doc isLeading]
def isTrailing (value : Nat) : Bool :=
  0xDC00 ≤ value && value ≤ 0xDFFF

/-- The character of a pair of surrogates. -/
def pairedCharacter (leading trailing : Nat) : Char :=
  Char.ofNat (0x10000 + (leading - 0xD800) * 0x400 + (trailing - 0xDC00))

/-- The second of a pair of surrogates, which must follow as an escape of its own. -/
def readTrailing (leading : Nat) (source : Text) : Except Fault (Char × Text) :=
  match source with
  | [] => .error ⟨.endOfString, 0⟩
  | '\\' :: afterSlash =>
    match afterSlash with
    | [] => .error ⟨.endOfString, 0⟩
    | 'u' :: inside =>
      match readHex inside with
      | .error fault => .error fault
      | .ok (trailing, rest) =>
        if isTrailing trailing then .ok (pairedCharacter leading trailing, rest)
        else .error (.before .loneSurrogate rest)
    | _ :: _ => .error (.within .brokenSurrogatePair afterSlash)
  | _ :: _ => .error (.within .brokenSurrogatePair source)

/-- The character that an escape by number stands for, from behind its letter. -/
def readUnicode (source : Text) : Except Fault (Char × Text) :=
  match readHex source with
  | .error fault => .error fault
  | .ok (value, rest) =>
    if isTrailing value then .error (.before .loneSurrogate rest)
    else if isLeading value then readTrailing value rest
    else .ok (Char.ofNat value, rest)

/-- The character that a letter behind a backslash stands for. -/
def escaped? : Char → Option Char
  | '"' => some '"'
  | '\\' => some '\\'
  | '/' => some '/'
  | 'b' => some '\x08'
  | 'f' => some '\x0c'
  | 'n' => some '\n'
  | 'r' => some '\r'
  | 't' => some '\t'
  | _ => none

/-- The character that an escape stands for, from behind its backslash. -/
def readEscape (source : Text) : Except Fault (Char × Text) :=
  match source with
  | [] => .error ⟨.endOfString, 0⟩
  | letter :: rest =>
    if letter = 'u' then readUnicode rest
    else
      match escaped? letter with
      | some character => .ok (character, rest)
      | none => .error (.within .invalidEscape source)

theorem length_lt_of_readHex {source rest : Text} {value : Nat}
    (read : readHex source = .ok (value, rest)) : rest.length < source.length := by
  unfold readHex at read
  split at read
  · simp at read
  · split at read
    · split at read
      · obtain ⟨-, rfl⟩ := by simpa using read
        simp only [List.length_cons]
        omega
      · simp at read
    · simp at read

theorem length_lt_of_readTrailing {leading : Nat} {source rest : Text} {character : Char}
    (read : readTrailing leading source = .ok (character, rest)) :
    rest.length < source.length := by
  unfold readTrailing at read
  split at read
  · simp at read
  · split at read
    · simp at read
    · split at read
      · simp at read
      · rename_i trailing rest' second
        split at read
        · obtain ⟨-, rfl⟩ := by simpa using read
          have bound := length_lt_of_readHex second
          simp only [List.length_cons]
          omega
        · simp at read
    · simp at read
  · simp at read

theorem length_lt_of_readUnicode {source rest : Text} {character : Char}
    (read : readUnicode source = .ok (character, rest)) : rest.length < source.length := by
  unfold readUnicode at read
  split at read
  · simp at read
  · rename_i value rest' first
    have bound := length_lt_of_readHex first
    split at read
    · simp at read
    · split at read
      · have bound' := length_lt_of_readTrailing read
        omega
      · obtain ⟨-, rfl⟩ := by simpa using read
        exact bound

theorem length_lt_of_readEscape {source rest : Text} {character : Char}
    (read : readEscape source = .ok (character, rest)) : rest.length < source.length := by
  unfold readEscape at read
  split at read
  · simp at read
  · split at read
    · have bound := length_lt_of_readUnicode read
      simp only [List.length_cons]
      omega
    · split at read
      · obtain ⟨-, rfl⟩ := by simpa using read
        simp
      · simp at read

/-- The content of a string and the text behind its closing quote, from behind the opening
one. -/
def readString (source : Text) : Except Fault (Text × Text) :=
  match source with
  | [] => .error ⟨.endOfString, 0⟩
  | character :: rest =>
    if character = '"' then .ok ([], rest)
    else if character = '\\' then
      match _escape : readEscape rest with
      | .error fault => .error fault
      | .ok (meant, later) => (readString later).map fun read => (meant :: read.1, read.2)
    else if character.toNat < 0x20 then .error (.before .controlCharacter rest)
    else (readString rest).map fun read => (character :: read.1, read.2)
termination_by source.length
decreasing_by
  · have bound := length_lt_of_readEscape _escape
    simp only [List.length_cons]
    omega
  · simp

theorem length_lt_of_readString {source content rest : Text}
    (read : readString source = .ok (content, rest)) : rest.length < source.length := by
  induction length : source.length using Nat.strongRecOn generalizing source content with
  | _ size inductionHypothesis =>
    subst length
    unfold readString at read
    split at read
    · simp at read
    · rename_i character tail
      split at read
      · obtain ⟨-, rfl⟩ := by simpa using read
        simp
      · split at read
        · split at read
          · simp at read
          · rename_i meant later escape
            have shorter := length_lt_of_readEscape escape
            cases inner : readString later with
            | error fault =>
              rw [inner] at read
              simp [Except.map] at read
            | ok parts =>
              rw [inner] at read
              obtain ⟨-, rfl⟩ : meant :: parts.1 = content ∧ parts.2 = rest := by
                simpa [Except.map] using read
              have bound := inductionHypothesis later.length (by simp only [List.length_cons]; omega)
                inner rfl
              simp only [List.length_cons]
              omega
        · split at read
          · simp at read
          · cases inner : readString tail with
            | error fault =>
              rw [inner] at read
              simp [Except.map] at read
            | ok parts =>
              rw [inner] at read
              obtain ⟨-, rfl⟩ : character :: parts.1 = content ∧ parts.2 = rest := by
                simpa [Except.map] using read
              have bound := inductionHypothesis tail.length (by simp) inner rfl
              simp only [List.length_cons]
              omega

/-! ### Reading what was written -/

theorem escaped?_of_shortEscape? {character letter : Char}
    (short : shortEscape? character = some letter) :
    letter ≠ 'u' ∧ escaped? letter = some character := by
  unfold shortEscape? at short
  split at short <;> simp at short <;> subst short <;> decide

theorem hexValue?_hexDigit {value : Nat} (small : value < 16) :
    hexValue? (hexDigit value) = some value := by
  have every : ∀ digit : Fin 16, hexValue? (hexDigit digit) = some digit.val := by decide
  exact every ⟨value, small⟩

theorem utf8Size_hexDigit {value : Nat} (small : value < 16) :
    (hexDigit value).utf8Size = 1 := by
  have every : ∀ digit : Fin 16, (hexDigit digit).utf8Size = 1 := by decide
  exact every ⟨value, small⟩

/-- A control character is read back from its number. -/
theorem readEscape_control {character : Char} (control : character.toNat < 0x20) (rest : Text) :
    readEscape ('u' :: '0' :: '0' :: hexDigit (character.toNat / 16) ::
      hexDigit (character.toNat % 16) :: rest) = .ok (character, rest) := by
  have high : character.toNat / 16 < 16 := by omega
  have low : character.toNat % 16 < 16 := by omega
  have zero : hexValue? '0' = some 0 := by decide
  have value : ((0 * 16 + 0) * 16 + character.toNat / 16) * 16 + character.toNat % 16 =
      character.toNat := by omega
  have four : readHex ('0' :: '0' :: hexDigit (character.toNat / 16) ::
      hexDigit (character.toNat % 16) :: rest) = .ok (character.toNat, rest) := by
    have long : ¬ Text.size ('0' :: '0' :: hexDigit (character.toNat / 16) ::
        hexDigit (character.toNat % 16) :: rest) < 4 := by
      simp only [Text.size_cons, utf8Size_hexDigit high, utf8Size_hexDigit low]
      have one : ('0' : Char).utf8Size = 1 := by decide
      omega
    rw [readHex, if_neg long]
    simp only [fourHex?, zero, hexValue?_hexDigit high, hexValue?_hexDigit low, Option.bind_some,
      Option.map_some, value]
  have noTrailing : isTrailing character.toNat = false := by
    simp only [isTrailing, Bool.and_eq_false_iff, decide_eq_false_iff_not]
    omega
  have noLeading : isLeading character.toNat = false := by
    simp only [isLeading, Bool.and_eq_false_iff, decide_eq_false_iff_not]
    omega
  simp only [readEscape, if_true, readUnicode, four, noTrailing, noLeading, Bool.false_eq_true,
    if_false, Char.ofNat_toNat]

/-- A written character is read back before what follows it. -/
theorem readString_escape (character : Char) (later : Text) :
    readString (escape character ++ later) =
      (readString later).map fun read => (character :: read.1, read.2) := by
  have quoteDiffers : ¬ '\\' = '"' := by decide
  unfold escape
  split
  · rename_i letter short
    obtain ⟨notUnicode, back⟩ := escaped?_of_shortEscape? short
    rw [List.cons_append, List.cons_append, List.nil_append, readString, if_neg quoteDiffers,
      if_pos rfl]
    have escape : readEscape (letter :: later) = .ok (character, later) := by
      simp only [readEscape, if_neg notUnicode, back]
    split
    · rename_i fault found
      rw [escape] at found
      simp at found
    · rename_i meant rest found
      rw [escape] at found
      obtain ⟨rfl, rfl⟩ : character = meant ∧ later = rest := by simpa using found
      rfl
  · rename_i long
    have notQuote : character ≠ '"' := by
      rintro rfl
      simp [shortEscape?] at long
    have notSlash : character ≠ '\\' := by
      rintro rfl
      simp [shortEscape?] at long
    split
    · rename_i control
      have escape := readEscape_control control later
      simp only [List.cons_append, List.nil_append]
      rw [readString, if_neg quoteDiffers, if_pos rfl]
      split
      · rename_i fault found
        rw [escape] at found
        simp at found
      · rename_i meant rest found
        rw [escape] at found
        obtain ⟨rfl, rfl⟩ : character = meant ∧ later = rest := by simpa using found
        rfl
    · rename_i plain
      rw [List.cons_append, List.nil_append, readString, if_neg notQuote, if_neg notSlash,
        if_neg plain]

/-- The content of a string is read back from its written form. -/
theorem readString_content (content rest : Text) :
    readString (content.flatMap escape ++ '"' :: rest) = .ok (content, rest) := by
  induction content with
  | nil => rw [List.flatMap_nil, List.nil_append, readString, if_pos rfl]
  | cons character content inductionHypothesis =>
    rw [List.flatMap_cons, List.append_assoc, readString_escape, inductionHypothesis]
    rfl

end Json

end Stencil
