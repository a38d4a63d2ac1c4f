/-
This file shows that a printed document is read back. Lines and indentation are spaces that the
reader passes over between the parts, a string is read as its content was written, and a container
is read part by part up to its closing bracket. A number may be spelled in any way, so what is said
here is said of documents without numbers; their containers stand within one another no deeper
than the reader goes, and the members of an object ascend, which is how objects are held.
-/

import Stencil.Json.Printer
import Stencil.Json.Reader

namespace Stencil

/-! ### Fields in order -/

namespace Fields

variable {Item : Type}

/-- A field whose name is greater than all others goes to the end. -/
theorem put_of_forall_lt {name : Text} {item : Item} {fields : Fields Item}
    (below : ∀ other ∈ fields.names, other < name) :
    fields.put name item = fields ++ [(name, item)] := by
  induction fields with
  | nil => rfl
  | cons field rest inductionHypothesis =>
    obtain ⟨head, value⟩ := field
    have beyond : head < name := below head List.mem_cons_self
    have differ : name ≠ head := by
      rintro rfl
      exact List.lt_irrefl name beyond
    have behind := inductionHypothesis fun other member =>
      below other (List.mem_cons_of_mem head member)
    rw [put, if_neg (Std.not_gt_of_lt beyond), if_neg differ, behind, List.cons_append]

/-- Fields that ascend stay as they are when they are written one after the other. -/
theorem Ordered.putAll_eq_append {before after : Fields Item}
    (ordered : Ordered (before ++ after)) : before.putAll after = before ++ after := by
  induction after generalizing before with
  | nil => exact (List.append_nil before).symm
  | cons field rest inductionHypothesis =>
    obtain ⟨name, item⟩ := field
    have whole : before ++ (name, item) :: rest = before ++ [(name, item)] ++ rest := by
      rw [List.append_assoc, List.singleton_append]
    have below : ∀ other ∈ before.names, other < name := fun other member => by
      rw [Ordered, names, List.map_append, List.pairwise_append] at ordered
      exact ordered.2.2 other member name List.mem_cons_self
    show (before.put name item).putAll rest = _
    rw [put_of_forall_lt below, whole]
    exact inductionHypothesis (whole ▸ ordered)

theorem Ordered.ofList_eq {fields : Fields Item} (ordered : fields.Ordered) :
    ofList fields = fields := by
  have whole : Ordered ([] ++ fields) := ordered
  exact whole.putAll_eq_append

end Fields

namespace Json

/-! ### What a reading takes -/

/-- A reading gives an item and leaves a rest. -/
def Reading.Takes {Item : Type} {source : Text} (reading : Reading Item source) (item : Item)
    (rest : Text) : Prop :=
  ∃ shorter, reading = .ok (item, ⟨rest, shorter⟩)

namespace Reading

variable {Item Other : Type} {inner outer rest : Text} {item : Item} {other : Other}
  {reading : Reading Item inner}

theorem Takes.map {change : Item × Rest inner → Other × Rest outer}
    (takes : reading.Takes item rest)
    (changes : ∀ shorter, ∃ shorter', change (item, ⟨rest, shorter⟩) = (other, ⟨rest, shorter'⟩)) :
    Takes (Except.map change reading) other rest := by
  obtain ⟨shorter, rfl⟩ := takes
  obtain ⟨shorter', changed⟩ := changes shorter
  exact ⟨shorter', congrArg Except.ok changed⟩

theorem Takes.widen (takes : reading.Takes item rest) (bound : inner.length ≤ outer.length) :
    (reading.widen bound).Takes item rest :=
  takes.map fun _ => ⟨_, rfl⟩

end Reading

open Reading

/-! ### Spaces -/

/-- There is nothing but spaces in a text. -/
def IsSpacing (text : Text) : Prop :=
  ∀ character ∈ text, isSpace character

variable {source inside rest spacing : Text} {head : Char} {tail : Text}

theorem isSpacing_lineStart (level : Nat) : IsSpacing (lineStart level) := by
  intro character member
  rcases List.mem_cons.1 member with rfl | blank
  · rfl
  · obtain rfl := List.eq_of_mem_replicate blank
    rfl

theorem skipSpaces_append (blank : IsSpacing spacing) (solid : isSpace head = false) :
    skipSpaces (spacing ++ head :: tail) = head :: tail := by
  rw [skipSpaces, List.dropWhile_append_of_pos blank, List.dropWhile_cons_of_neg]
  exact Bool.not_eq_true _ ▸ solid

/-- A reader that looks behind the spaces goes on with what stands there. -/
theorem match_skipSpaces {Result : Type} {onEmpty : skipSpaces source = [] → Result}
    {onNext : ∀ character rest, skipSpaces source = character :: rest → Result}
    (front : skipSpaces source = head :: tail) :
    (match found : skipSpaces source with
      | [] => onEmpty found
      | character :: rest => onNext character rest found) = onNext head tail front := by
  split
  · rename_i empty
    rw [front] at empty
    contradiction
  · rename_i character behind found
    obtain ⟨rfl, rfl⟩ := List.cons.inj (front.symm.trans found)
    rfl

/-! ### Values -/

theorem readWord_append (word rest : Text) : readWord word (word ++ rest) = .ok rest := by
  induction word with
  | nil => rw [List.nil_append, readWord]
  | cons letter word inductionHypothesis =>
    rw [List.cons_append, readWord, if_pos rfl, inductionHypothesis]

theorem readNamed_append (document : Json) (word rest : Text) :
    ∃ bound, readNamed document word (word ++ rest) = .ok (document, ⟨rest, bound⟩) := by
  have found := readWord_append word rest
  unfold readNamed
  split
  · rename_i fault named
    rw [found] at named
    contradiction
  · rename_i behind named
    obtain rfl := Except.ok.inj (found.symm.trans named)
    exact ⟨length_le_of_readWord found, rfl⟩

/-- A document that is written as a word, with the first letter and the others. -/
inductive IsWord : Json → Char → Text → Prop where
  | null : IsWord .null 'n' ['u', 'l', 'l']
  | true : IsWord (.boolean true) 't' ['r', 'u', 'e']
  | false : IsWord (.boolean false) 'f' ['a', 'l', 's', 'e']

theorem takes_readValue_word {document : Json} {letter : Char} {word : Text}
    (isWord : IsWord document letter word) (front : skipSpaces source = letter :: (word ++ rest))
    (depth : Nat) : (readValue depth source).Takes document rest := by
  obtain ⟨bound, named⟩ := readNamed_append document word rest
  rw [(readValue.eq_def depth source).trans (match_skipSpaces front)]
  cases isWord <;> simp +decide only [if_false, if_true] <;> rw [named] <;> exact ⟨_, rfl⟩

theorem takes_readValue_string {content : Text} (front : skipSpaces source = '"' :: inside)
    (read : readString inside = .ok (content, rest)) (depth : Nat) :
    (readValue depth source).Takes (.string content) rest := by
  rw [(readValue.eq_def depth source).trans (match_skipSpaces front)]
  simp +decide only [if_false, if_true]
  split
  · rename_i fault named
    rw [read] at named
    contradiction
  · rename_i content' later named
    rw [read] at named
    obtain ⟨rfl, rfl⟩ := Prod.mk.inj (Except.ok.inj named)
    exact ⟨_, rfl⟩

theorem takes_readValue_array {items : List Json} {depth : Nat}
    (front : skipSpaces source = '[' :: inside)
    (takes : (readItems (readValue depth) inside).Takes items rest) :
    (readValue (depth + 1) source).Takes (.array items) rest := by
  rw [(readValue.eq_def (depth + 1) source).trans (match_skipSpaces front)]
  simp +decide only [if_false, if_true]
  exact (takes.widen _).map fun _ => ⟨_, rfl⟩

theorem takes_readValue_object {members : Fields Json} {depth : Nat} (ordered : members.Ordered)
    (front : skipSpaces source = '\x7b' :: inside)
    (takes : (readMembers (readValue depth) inside).Takes members rest) :
    (readValue (depth + 1) source).Takes (.object members) rest := by
  rw [(readValue.eq_def (depth + 1) source).trans (match_skipSpaces front)]
  simp +decide only [if_false, if_true]
  exact (takes.widen _).map fun _ => ⟨_, by rw [ordered.ofList_eq]⟩

/-! ### Items -/

variable {readItem : (source : Text) → Reading Json source}

/-- Behind any spaces and in front of any text a part is read as an item. No part starts like the
end of a list. -/
structure ReadsPart (readItem : (source : Text) → Reading Json source) (part : Text)
    (item : Json) : Prop where
  starts : ∃ head tail, part = head :: tail ∧ isSpace head = false ∧ head ≠ ']'
  takes : ∀ spacing rest, IsSpacing spacing → (readItem (spacing ++ (part ++ rest))).Takes item rest

theorem ReadsPart.skipSpaces {part : Text} {item : Json} (reads : ReadsPart readItem part item)
    (blank : IsSpacing spacing) (rest : Text) :
    ∃ head tail, skipSpaces (spacing ++ (part ++ rest)) = head :: tail ∧ head ≠ ']' := by
  obtain ⟨head, tail, rfl, solid, notEnd⟩ := reads.starts
  exact ⟨head, tail ++ rest, skipSpaces_append blank solid, notEnd⟩

theorem takes_readMoreItems_end (front : skipSpaces source = ']' :: rest) :
    (readMoreItems readItem source).Takes [] rest := by
  rw [(readMoreItems.eq_def readItem source).trans (match_skipSpaces front), if_pos rfl]
  exact ⟨_, rfl⟩

theorem takes_readMoreItems_next {item : Json} {items : List Json} {later : Text}
    (front : skipSpaces source = ',' :: inside)
    (next : ∃ head tail, skipSpaces inside = head :: tail ∧ head ≠ ']')
    (first : (readItem inside).Takes item later)
    (more : (readMoreItems readItem later).Takes items rest) :
    (readMoreItems readItem source).Takes (item :: items) rest := by
  obtain ⟨head, tail, next, notEnd⟩ := next
  obtain ⟨shorter, first⟩ := first
  rw [(readMoreItems.eq_def readItem source).trans (match_skipSpaces front)]
  simp +decide only [if_false, if_true, next, notEnd]
  rw [first]
  exact more.map fun _ => ⟨_, rfl⟩

/-- Further items, each behind a comma and spaces, are read up to the end of the list. -/
theorem takes_readMoreItems {part : Json → Text} {items : List Json} {closing : Text}
    (reads : ∀ item ∈ items, ReadsPart readItem (part item) item) (blank : IsSpacing spacing)
    (blankEnd : IsSpacing closing) (rest : Text) :
    (readMoreItems readItem (items.flatMap (fun item => ',' :: (spacing ++ part item)) ++
      (closing ++ ']' :: rest))).Takes items rest := by
  induction items with
  | nil => exact takes_readMoreItems_end (skipSpaces_append blankEnd rfl)
  | cons item items inductionHypothesis =>
    have first := reads item List.mem_cons_self
    have more := inductionHypothesis fun other member =>
      reads other (List.mem_cons_of_mem item member)
    rw [List.flatMap_cons, List.cons_append, List.cons_append, List.append_assoc,
      List.append_assoc]
    exact takes_readMoreItems_next (List.dropWhile_cons_of_neg (by decide))
      (first.skipSpaces blank _) (first.takes spacing _ blank) more

theorem takes_readItems_end (front : skipSpaces source = ']' :: rest) :
    (readItems readItem source).Takes [] rest := by
  rw [(readItems.eq_def readItem source).trans (match_skipSpaces front), if_pos rfl]
  exact ⟨_, rfl⟩

theorem takes_readItems_next {item : Json} {items : List Json} {later : Text}
    (next : ∃ head tail, skipSpaces source = head :: tail ∧ head ≠ ']')
    (first : (readItem source).Takes item later)
    (more : (readMoreItems readItem later).Takes items rest) :
    (readItems readItem source).Takes (item :: items) rest := by
  obtain ⟨head, tail, next, notEnd⟩ := next
  obtain ⟨shorter, first⟩ := first
  rw [(readItems.eq_def readItem source).trans (match_skipSpaces next), if_neg notEnd, first]
  exact more.map fun _ => ⟨_, rfl⟩

/-! ### Members -/

theorem takes_readMember {name afterName : Text} {item : Json}
    (named : readString source = .ok (name, afterName))
    (front : skipSpaces afterName = ':' :: inside)
    (takes : (readItem inside).Takes item rest) :
    (readMember readItem source).Takes (name, item) rest := by
  unfold readMember
  split
  · rename_i fault found
    rw [named] at found
    contradiction
  · rename_i name' behind found
    rw [named] at found
    obtain ⟨rfl, rfl⟩ := Prod.mk.inj (Except.ok.inj found)
    split
    · rename_i empty
      rw [front] at empty
      contradiction
    · rename_i character inside' found
      obtain ⟨rfl, rfl⟩ := List.cons.inj (front.symm.trans found)
      simp only [if_true]
      exact (takes.widen _).map fun _ => ⟨_, rfl⟩

/-- Behind the quote that opens its name a part is read as a member of an object, in front of any
text. -/
def ReadsMember (readItem : (source : Text) → Reading Json source) (part : Text)
    (member : Text × Json) : Prop :=
  ∃ inside, part = '"' :: inside ∧
    ∀ rest, (readMember readItem (inside ++ rest)).Takes member rest

/-- A quoted name, a colon and what is read as an item are read as a member. -/
theorem ReadsPart.member {part : Text} {item : Json} (reads : ReadsPart readItem part item)
    (name : Text) : ReadsMember readItem (quote name ++ [':', ' '] ++ part) (name, item) := by
  refine ⟨name.flatMap escape ++ '"' :: ':' :: ' ' :: part, by simp [quote], fun rest => ?_⟩
  have blank : IsSpacing [' '] := fun character member => List.mem_singleton.1 member ▸ rfl
  rw [List.append_assoc]
  exact takes_readMember (readString_content name _) (List.dropWhile_cons_of_neg (by decide))
    (reads.takes [' '] rest blank)

theorem takes_readMoreMembers_end (front : skipSpaces source = '\x7d' :: rest) :
    (readMoreMembers readItem source).Takes [] rest := by
  rw [(readMoreMembers.eq_def readItem source).trans (match_skipSpaces front), if_pos rfl]
  exact ⟨_, rfl⟩

theorem takes_readMoreMembers_next {member : Text × Json} {members : List (Text × Json)}
    {afterComma later : Text} (front : skipSpaces source = ',' :: afterComma)
    (next : skipSpaces afterComma = '"' :: inside)
    (first : (readMember readItem inside).Takes member later)
    (more : (readMoreMembers readItem later).Takes members rest) :
    (readMoreMembers readItem source).Takes (member :: members) rest := by
  obtain ⟨shorter, first⟩ := first
  have afterFront := (readMoreMembers.eq_def readItem source).trans (match_skipSpaces front)
  have atComma := afterFront.trans ((if_neg (by decide)).trans (if_pos rfl))
  rw [atComma.trans (match_skipSpaces next), if_pos rfl, first]
  exact more.map fun _ => ⟨_, rfl⟩

/-- Further members, each behind a comma and spaces, are read up to the end of the object. -/
theorem takes_readMoreMembers {part : Text × Json → Text} {members : List (Text × Json)}
    {closing : Text} (reads : ∀ member ∈ members, ReadsMember readItem (part member) member)
    (blank : IsSpacing spacing) (blankEnd : IsSpacing closing) (rest : Text) :
    (readMoreMembers readItem (members.flatMap (fun member => ',' :: (spacing ++ part member)) ++
      (closing ++ '\x7d' :: rest))).Takes members rest := by
  induction members with
  | nil => exact takes_readMoreMembers_end (skipSpaces_append blankEnd rfl)
  | cons member members inductionHypothesis =>
    obtain ⟨inside, starts, takes⟩ := reads member List.mem_cons_self
    have more := inductionHypothesis fun other listed =>
      reads other (List.mem_cons_of_mem member listed)
    rw [List.flatMap_cons, starts, List.cons_append, List.cons_append, List.append_assoc,
      List.append_assoc]
    exact takes_readMoreMembers_next (List.dropWhile_cons_of_neg (by decide))
      (skipSpaces_append blank rfl) (takes _) more

theorem takes_readMembers_end (front : skipSpaces source = '\x7d' :: rest) :
    (readMembers readItem source).Takes [] rest := by
  rw [(readMembers.eq_def readItem source).trans (match_skipSpaces front), if_pos rfl]
  exact ⟨_, rfl⟩

theorem takes_readMembers_next {member : Text × Json} {members : List (Text × Json)} {later : Text}
    (front : skipSpaces source = '"' :: inside)
    (first : (readMember readItem inside).Takes member later)
    (more : (readMoreMembers readItem later).Takes members rest) :
    (readMembers readItem source).Takes (member :: members) rest := by
  obtain ⟨shorter, first⟩ := first
  rw [(readMembers.eq_def readItem source).trans (match_skipSpaces front)]
  simp +decide only [if_false, if_true]
  rw [first]
  exact more.map fun _ => ⟨_, rfl⟩

/-! ### Documents -/

theorem intercalate_map_cons {Item : Type} (separator : Text) (part : Item → Text) (item : Item)
    (items : List Item) : separator.intercalate ((item :: items).map part) =
      part item ++ items.flatMap fun item => separator ++ part item := by
  induction items generalizing item with
  | nil => rw [List.flatMap_nil, List.append_nil]; exact List.intercalate_singleton
  | cons next items inductionHypothesis =>
    rw [List.map_cons, List.map_cons, List.intercalate_cons_cons, ← List.map_cons,
      inductionHypothesis, List.flatMap_cons, List.append_assoc, List.append_assoc]

theorem enclose_cons_append {Item : Type} (opening closing : Char) (level : Nat)
    (part : Item → Text) (item : Item) (items : List Item) (rest : Text) :
    enclose opening closing level ((item :: items).map part) ++ rest =
      opening :: (lineStart (level + 1) ++ (part item ++
        (items.flatMap (fun item => ',' :: (lineStart (level + 1) ++ part item)) ++
          (lineStart level ++ closing :: rest)))) := by
  rw [enclose, intercalate_map_cons]
  simp only [List.map_cons, List.isEmpty_cons, Bool.false_eq_true, if_false, List.cons_append,
    List.append_assoc, List.nil_append]

theorem enclose_starts (opening closing : Char) (level : Nat) (parts : List Text) :
    ∃ tail, enclose opening closing level parts = opening :: tail := by
  unfold enclose
  split
  · exact ⟨[closing], rfl⟩
  · exact ⟨_, rfl⟩

theorem ReadsPart.array {depth : Nat} {part : Json → Text} {items : List Json}
    (reads : ∀ item ∈ items, ReadsPart (readValue depth) (part item) item) (level : Nat) :
    ReadsPart (readValue (depth + 1)) (enclose '[' ']' level (items.map part)) (.array items) := by
  obtain ⟨tail, starts⟩ := enclose_starts '[' ']' level (items.map part)
  refine ⟨⟨'[', tail, starts, rfl, by decide⟩, fun spacing rest blank => ?_⟩
  cases items with
  | nil =>
    exact takes_readValue_array (skipSpaces_append blank rfl)
      (takes_readItems_end (List.dropWhile_cons_of_neg (by decide)))
  | cons item items =>
    have first := reads item List.mem_cons_self
    have inner := isSpacing_lineStart (level + 1)
    have more := takes_readMoreItems
      (fun other member => reads other (List.mem_cons_of_mem item member)) inner
      (isSpacing_lineStart level) rest
    rw [enclose_cons_append]
    exact takes_readValue_array (skipSpaces_append blank rfl)
      (takes_readItems_next (first.skipSpaces inner _) (first.takes _ _ inner) more)

theorem ReadsPart.object {depth : Nat} {part : Text × Json → Text} {members : Fields Json}
    (ordered : members.Ordered)
    (reads : ∀ member ∈ members, ReadsMember (readValue depth) (part member) member) (level : Nat) :
    ReadsPart (readValue (depth + 1)) (enclose '\x7b' '\x7d' level (members.map part))
      (.object members) := by
  obtain ⟨tail, starts⟩ := enclose_starts '\x7b' '\x7d' level (members.map part)
  refine ⟨⟨'\x7b', tail, starts, rfl, by decide⟩, fun spacing rest blank => ?_⟩
  cases members with
  | nil =>
    exact takes_readValue_object ordered (skipSpaces_append blank rfl)
      (takes_readMembers_end (List.dropWhile_cons_of_neg (by decide)))
  | cons member members =>
    obtain ⟨inside, opens, takes⟩ := reads member List.mem_cons_self
    have inner := isSpacing_lineStart (level + 1)
    have more := takes_readMoreMembers
      (fun other listed => reads other (List.mem_cons_of_mem member listed)) inner
      (isSpacing_lineStart level) rest
    rw [enclose_cons_append, opens, List.cons_append]
    exact takes_readValue_object ordered (skipSpaces_append blank rfl)
      (takes_readMembers_next (skipSpaces_append inner rfl) (takes _) more)

theorem ReadsPart.word {document : Json} {letter : Char} {word : Text}
    (isWord : IsWord document letter word) (depth : Nat) :
    ReadsPart (readValue depth) (letter :: word) document := by
  have solid : isSpace letter = false := by cases isWord <;> rfl
  refine ⟨⟨letter, word, rfl, solid, by cases isWord <;> decide⟩, fun spacing rest blank => ?_⟩
  exact takes_readValue_word isWord (skipSpaces_append blank solid) depth

theorem ReadsPart.string (depth : Nat) (content : Text) :
    ReadsPart (readValue depth) (quote content) (.string content) := by
  refine ⟨⟨'"', content.flatMap escape ++ ['"'], by simp [quote], rfl, by decide⟩,
    fun spacing rest blank => ?_⟩
  have whole : quote content ++ rest = '"' :: (content.flatMap escape ++ '"' :: rest) := by
    simp [quote]
  rw [whole]
  exact takes_readValue_string (skipSpaces_append blank rfl) (readString_content content rest) depth

/-- A document has no numbers, its containers stand within one another no deeper than given, and
the members of its objects ascend. -/
inductive Readable : Nat → Json → Prop where
  | null {depth : Nat} : Readable depth .null
  | boolean {depth : Nat} (flag : Bool) : Readable depth (.boolean flag)
  | string {depth : Nat} (content : Text) : Readable depth (.string content)
  | array {depth : Nat} {items : List Json} (within : ∀ item ∈ items, Readable depth item) :
      Readable (depth + 1) (.array items)
  | object {depth : Nat} {members : Fields Json} (ordered : members.Ordered)
      (within : ∀ member ∈ members, Readable depth member.2) :
      Readable (depth + 1) (.object members)

theorem printItemsAt_eq_map (level : Nat) (items : List Json) :
    printItemsAt level items = items.map (printAt level) := by
  induction items with
  | nil => rw [printItemsAt, List.map_nil]
  | cons item rest inductionHypothesis => rw [printItemsAt, inductionHypothesis, List.map_cons]

theorem printMembersAt_eq_map (level : Nat) (members : List (Text × Json)) :
    printMembersAt level members =
      members.map fun member => quote member.1 ++ [':', ' '] ++ printAt level member.2 := by
  induction members with
  | nil => rw [printMembersAt, List.map_nil]
  | cons member rest inductionHypothesis =>
    obtain ⟨name, item⟩ := member
    rw [printMembersAt, inductionHypothesis, List.map_cons]

theorem Readable.readsPart {depth : Nat} {document : Json} (readable : Readable depth document)
    (level : Nat) : ReadsPart (readValue depth) (printAt level document) document := by
  induction readable generalizing level with
  | null =>
    rw [printAt]
    exact .word .null _
  | boolean flag =>
    cases flag with
    | true => rw [printAt]; exact .word .true _
    | false => rw [printAt]; exact .word .false _
  | string content =>
    rw [printAt]
    exact .string _ content
  | array _ inductionHypothesis =>
    rw [printAt, printItemsAt_eq_map]
    exact .array (fun item member => inductionHypothesis item member (level + 1)) level
  | object ordered _ inductionHypothesis =>
    rw [printAt, printMembersAt_eq_map]
    exact .object ordered
      (fun member listed => (inductionHypothesis member listed (level + 1)).member member.1) level

/-- A printed document is read back. -/
theorem read_print {document : Json} (readable : Readable maximalDepth document) :
    read (print document) = .ok document := by
  have takes := (readable.readsPart 0).takes [] [] fun _ => List.not_mem_nil.elim
  rw [List.nil_append, List.append_nil] at takes
  obtain ⟨shorter, taken⟩ := takes
  rw [read, print, taken]
  rfl

end Json

end Stencil
