/-
This file follows the sequences of characters that a terminal draws as one: emoji
with a skin tone, a flag or a joined family, a base with a selector behind it, and
the ligatures of some scripts. A text is read from its end, so what a character
adds depends on what has been read behind it; the beginning of a sequence is kept
until the character that completes it, or one that does not belong to it, comes.
-/

import Stencil.Width.Classes

namespace Stencil

namespace Width

/-! ### What stands behind a character -/

/-- The form of the character in front of it that a selector asks for. -/
inductive Selector where
  | text
  | emoji
  /-- The double width of a quotation mark. -/
  | wide
  deriving DecidableEq, Repr

/-- The end of a ligature. Of those that need a joiner, `joined` says whether it was read. -/
inductive Ligature where
  /-- An Arabic alef, which joins a lam. -/
  | alef
  /-- A Hebrew lamed, which joins an alef. -/
  | lamed (joined : Bool)
  /-- A Buginese ya, which joins the vowel sign i. -/
  | ya (joined : Bool)
  /-- A Buginese vowel sign i with a ya joined to it, which joins an a. -/
  | vowelYa
  /-- A Tifinagh consonant, which joins another. -/
  | consonant (joined : Bool)
  /-- A Tifinagh consonant with the joiner of that script in front. -/
  | consonantJoiner
  /-- A Lisu tone letter, which joins another. -/
  | toneLetter
  /-- An Old Turkic letter i, which joins an ash. -/
  | orkhonI (joined : Bool)
  /-- A Khmer letter, which a coeng sign puts below the letter in front. -/
  | coengLetter
  /-- A Kirat Rai vowel sign e, which joins the sign in front to one vowel. -/
  | vowelE
  /-- A Kirat Rai vowel sign ai, which joins an aa. -/
  | vowelAi
  deriving DecidableEq, Repr

/-- What of a sequence stands behind a character. -/
inductive Tail where
  | nothing
  | emoji
  | skinTone
  | flagLetter
  | flagLetters
  /-- A joiner and an emoji behind it. -/
  | joiner
  /-- The frame of a key in front of a joiner and an emoji. -/
  | keyJoiner
  | flagLetterJoiner
  | evenFlagLettersJoiner
  | oddFlagLettersJoiner
  /-- The end tag of a flag in front of a joiner and an emoji, and how many letters and digits
  of the flag's code were read. -/
  | tagsJoiner (letters digits : Nat)
  | ligature (inner : Ligature)
  deriving DecidableEq, Repr

/-- What stands behind a character: perhaps a selector, and what of a sequence is behind that. -/
structure Behind where
  selector : Option Selector
  tail : Tail
  deriving DecidableEq, Repr

/-! ### Single characters -/

/-- The character that joins the characters around it. -/
def joinerCode : Nat := 0x200D

/-- Whether a code point is a letter of a flag. -/
def isFlagLetter (code : Nat) : Bool := 0x1F1E6 ≤ code && code ≤ 0x1F1FF

/-- Whether a code point is a skin tone. -/
def isSkinTone (code : Nat) : Bool := 0x1F3FB ≤ code && code ≤ 0x1F3FF

/-- Whether a code point is a tag that stands for a small letter. -/
def isTagLetter (code : Nat) : Bool := 0xE0061 ≤ code && code ≤ 0xE007A

/-- Whether a code point is a tag that stands for a digit. -/
def isTagDigit (code : Nat) : Bool := 0xE0030 ≤ code && code ≤ 0xE0039

/-- Whether a code point is a Tifinagh consonant. -/
def isTifinagh (code : Nat) : Bool := (0x2D31 ≤ code && code ≤ 0x2D65) || code = 0x2D6F

/-- Whether a code point is a quotation mark that has a form of double width. -/
def isQuotationMark (code : Nat) : Bool :=
  code = 0x2018 || code = 0x2019 || code = 0x201C || code = 0x201D

/-- Whether a code point is in the block of enclosed ideographs, which stay wide as text. -/
def isEnclosedIdeograph (code : Nat) : Bool := 0x1F200 ≤ code && code ≤ 0x1F2FF

/-- The selector that a code point is. -/
def Selector.ofCode? (code : Nat) : Option Selector :=
  if code = 0xFE0E then some .text
  else if code = 0xFE0F then some .emoji
  else if code = 0xFE01 then some .wide
  else none

/-- The ligature that a code point may be the end of. -/
def Ligature.ofCode? (code : Nat) : Option Ligature :=
  if alefs.contains code then some .alef
  else if coengLetters.contains code then some .coengLetter
  else if isTifinagh code then some (.consonant false)
  else
    match code with
    | 0x05DC => some (.lamed false)
    | 0x1A10 => some (.ya false)
    | 0xA4FC => some .toneLetter
    | 0xA4FD => some .toneLetter
    | 0x10C03 => some (.orkhonI false)
    | 0x16D67 => some .vowelE
    | 0x16D68 => some .vowelAi
    | _ => none

/-- What a code point may be the end of. -/
def Tail.ofCode (code : Nat) : Tail :=
  if emojiByDefault.contains code then .emoji
  else if isSkinTone code then .skinTone
  else if isFlagLetter code then .flagLetter
  else
    match Ligature.ofCode? code with
    | some inner => .ligature inner
    | none => .nothing

/-! ### Ligatures -/

namespace Ligature

/-- The ligature behind a joiner. -/
def join : Ligature → Ligature
  | .lamed _ => .lamed true
  | .ya _ => .ya true
  | .consonant _ => .consonant true
  | .orkhonI _ => .orkhonI true
  | other => other

/-- What a code point adds in front of the end of a ligature, and what of the ligature is still
to be completed; none when it does not belong there. -/
def extend? (ligature : Ligature) (code : Nat) : Option (Int × Option Ligature) :=
  match ligature, code with
  | .lamed true, 0x05D0 => some (0, none)
  | .ya true, 0x1A17 => some (0, some .vowelYa)
  | .vowelYa, 0x1A15 => some (0, none)
  | .consonant _, 0x2D7F => some (1, some .consonantJoiner)
  | .consonant true, code => if isTifinagh code then some (0, none) else none
  | .consonantJoiner, code => if isTifinagh code then some (-1, none) else none
  | .toneLetter, code => if 0xA4F8 ≤ code && code ≤ 0xA4FB then some (0, none) else none
  | .orkhonI true, 0x10C32 => some (0, none)
  | .coengLetter, 0x17D2 => some (-1, none)
  | .vowelE, 0x16D63 => some (0, none)
  | .vowelE, 0x16D67 => some (0, some .vowelAi)
  | .vowelE, 0x16D68 => some (1, some .vowelE)
  | .vowelE, 0x16D69 => some (0, none)
  | .vowelAi, 0x16D63 => some (0, none)
  | _, _ => none

/-- As `extend?`, where a mark that does not break the ligature leaves it as it was. Arabic
letters join across marks of their own class and not across a joiner. -/
def add? (ligature : Ligature) (code : Nat) : Option (Int × Option Ligature) :=
  match ligature with
  | .alef =>
    if lams.contains code then some (0, none)
    else if Width.ofCode code = 0 && !joinBreaking.contains code then some (0, some .alef)
    else none
  | other =>
    if code = joinerCode then some (0, some other.join)
    else if ignorableMarks.contains code then some (0, some other)
    else other.extend? code

end Ligature

/-! ### Emoji sequences -/

namespace Tail

/-- Whether a selector may stand between what is behind and an emoji in front of it. -/
def awaitsEmoji : Tail → Bool
  | .joiner => true
  | .keyJoiner => true
  | _ => false

/-- What a code point adds in front of a joiner and an emoji, and what then stands there. -/
def addToJoiner? (code : Nat) : Option (Int × Tail) :=
  if code = 0x20E3 then some (0, .keyJoiner)
  else if isFlagLetter code then some (1, .flagLetterJoiner)
  else if isSkinTone code then some (0, .skinTone)
  else if code = 0xE007F then some (0, .tagsJoiner 0 0)
  else if emojiByDefault.contains code then some (0, .emoji)
  else none

/-- What a code point adds in front of the tags of a flag. A code has three to six letters, or
three digits with up to four letters behind them. -/
def addToTags? (letters digits code : Nat) : Option (Int × Tail) :=
  if isTagLetter code && digits = 0 && letters < 6 then some (0, .tagsJoiner (letters + 1) 0)
  else if isTagDigit code && digits < 3 && letters ≤ 4 then
    some (0, .tagsJoiner letters (digits + 1))
  else if code = 0x1F3F4 && (digits = 3 || digits = 0 && 3 ≤ letters) then some (0, .emoji)
  else none

/-- What a code point adds in front of a sequence, and what then stands there; none when it does
not belong to the sequence. -/
def add? (tail : Tail) (code : Nat) : Option (Int × Tail) :=
  match tail with
  | .nothing => none
  | .emoji => if code = joinerCode then some (0, .joiner) else none
  | .skinTone =>
    if modifiable.contains code then some (0, .emoji)
    else if code = joinerCode then some (0, .joiner)
    else none
  | .flagLetter => if isFlagLetter code then some (1, .flagLetters) else none
  | .flagLetters =>
    if isFlagLetter code then some (1, .flagLetters)
    else if code = joinerCode then some (0, .joiner)
    else none
  | .joiner => addToJoiner? code
  | .keyJoiner => none
  | .flagLetterJoiner => if isFlagLetter code then some (-1, .evenFlagLettersJoiner) else none
  | .evenFlagLettersJoiner =>
    if isFlagLetter code then some (3, .oddFlagLettersJoiner)
    else if code = joinerCode then some (0, .joiner)
    else none
  | .oddFlagLettersJoiner =>
    if isFlagLetter code then some (-1, .evenFlagLettersJoiner)
    else if code = joinerCode then some (0, .joiner)
    else none
  | .tagsJoiner letters digits => addToTags? letters digits code
  | .ligature inner =>
    (inner.add? code).map fun (columns, rest) =>
      (columns, match rest with
        | some left => .ligature left
        | none => .nothing)

/-- What is left of a sequence when the selector in front of it selected nothing: a ligature is
not broken by it, an emoji sequence is. -/
def released : Tail → Tail
  | .ligature inner => .ligature inner
  | _ => .nothing

end Tail

/-! ### One character more -/

namespace Behind

/-- The end of a text. -/
def nothing : Behind :=
  ⟨none, .nothing⟩

/-- What stands behind when no selector does. -/
def of (tail : Tail) : Behind :=
  ⟨none, tail⟩

/-- What a code point adds that the selector behind it applies to, and what then stands there. -/
def select? (behind : Behind) (code : Nat) : Option (Int × Behind) :=
  match behind.selector with
  | none => none
  | some .emoji =>
    if selectable.contains code then some (if behind.tail.awaitsEmoji then 0 else 2, of .emoji)
    else none
  | some .text =>
    if selectable.contains code && emojiByDefault.contains code && !isEnclosedIdeograph code then
      some (1, nothing)
    else none
  | some .wide => if isQuotationMark code then some (2, nothing) else none

/-- The tail behind a character that the selector did not apply to. -/
def unselected (behind : Behind) : Tail :=
  match behind.selector with
  | some _ => behind.tail.released
  | none => behind.tail

/-- What stands behind once a selector is read in front of a tail. -/
def selecting (selector : Selector) (tail : Tail) : Behind :=
  if selector = .emoji && tail.awaitsEmoji then ⟨some selector, tail⟩
  else ⟨some selector, tail.released⟩

/-- What a code point adds to which no selector applies, and what then stands there. -/
def addPlain (tail : Tail) (code : Nat) : Int × Behind :=
  if code ≤ 0xA0 then (1, nothing)
  else
    match Selector.ofCode? code with
    | some selector => (0, selecting selector tail)
    | none =>
      match tail.add? code with
      | some (columns, next) => (columns, of next)
      | none => (Int.ofNat (ofCode code), of (.ofCode code))

/-- What a code point adds in front of what was read, and what then stands there. -/
def add (behind : Behind) (code : Nat) : Int × Behind :=
  match behind.select? code with
  | some result => result
  | none => addPlain behind.unselected code

/-- In front of anything that no selector is part of, a character of the first half of Latin-1
takes one column and starts nothing. -/
theorem addPlain_of_le {code : Nat} (small : code ≤ 0xA0) (tail : Tail) :
    addPlain tail code = (1, nothing) := by
  rw [addPlain, if_pos small]

theorem add_nothing_of_le {code : Nat} (small : code ≤ 0xA0) :
    nothing.add code = (1, nothing) :=
  addPlain_of_le small _

end Behind

end Width

end Stencil
