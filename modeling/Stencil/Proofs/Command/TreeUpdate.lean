/-
This file says what writing one text makes of a document as a whole, by what is read along
every path afterwards. A path either is the path of the text, leads on from it, stops short
of it or lies apart of it. Where it stops short it ends at an object, whatever stood there
before, and that object differs in one member from the object that stood there. What is so
said of the paths leaves only one ordered document: the members of an object are those of
the other names, which stay, and the one that the rest of the path is written in.
-/

import Stencil.Proofs.Command.Assign

namespace Stencil

namespace Fields

variable {Item : Type}

/-! ### One field and the others -/

/-- The fields of every name but one. -/
def others (name : Text) (fields : Fields Item) : Fields Item :=
  fields.filter fun field => field.1 ≠ name

theorem others_cons_self (name : Text) (item : Item) (rest : Fields Item) :
    others name ((name, item) :: rest) = others name rest :=
  List.filter_cons_of_neg (by simp)

theorem others_cons_of_ne {name head : Text} (differ : name ≠ head) (item : Item)
    (rest : Fields Item) : others name ((head, item) :: rest) = (head, item) :: others name rest :=
  List.filter_cons_of_pos (by simpa using Ne.symm differ)

/-- Writing a field leaves the fields of the other names. -/
theorem others_put (name : Text) (item : Item) (fields : Fields Item) :
    others name (fields.put name item) = others name fields := by
  induction fields with
  | nil => exact others_cons_self name item []
  | cons field rest inductionHypothesis =>
    obtain ⟨head, value⟩ := field
    rw [put]
    split
    · exact others_cons_self name item _
    · split
      · rename_i same
        subst same
        rw [others_cons_self, others_cons_self]
      · rename_i differ
        rw [others_cons_of_ne differ, others_cons_of_ne differ, inductionHypothesis]

/-- Where all names are greater than one, its field goes to the front. -/
theorem put_others_of_forall_lt {name : Text} {fields : Fields Item}
    (above : ∀ other ∈ fields.names, name < other) (item : Item) :
    (others name fields).put name item = (name, item) :: fields := by
  have absent : others name fields = fields := by
    refine List.filter_eq_self.2 fun field member => decide_eq_true ?_
    rintro rfl
    exact List.lt_irrefl field.1 (above field.1 (List.mem_map_of_mem member))
  rw [absent]
  cases fields with
  | nil => rfl
  | cons field rest => rw [put, if_pos (above field.1 List.mem_cons_self)]

/-- Ordered fields are one of them written beside the others. -/
theorem Ordered.put_others {fields : Fields Item} (ordered : fields.Ordered) {name : Text}
    {item : Item} (found : fields.lookup name = some item) :
    (others name fields).put name item = fields := by
  induction fields with
  | nil => contradiction
  | cons field rest inductionHypothesis =>
    obtain ⟨head, value⟩ := field
    obtain ⟨above, restOrdered⟩ := ordered_cons.1 ordered
    by_cases same : name = head
    · subst same
      obtain rfl : value = item := by simpa using found
      rw [others_cons_self, put_others_of_forall_lt above]
    · have later : rest.lookup name = some item := by
        rwa [List.lookup_cons, beq_false_of_ne same] at found
      have below : head < name := above name (mem_names_iff.2 (by rw [later]; rfl))
      rw [others_cons_of_ne same, Fields.put, if_neg (Std.not_gt_of_lt below), if_neg same,
        inductionHypothesis restOrdered later]

end Fields

namespace Json

/-! ### Reading along a path -/

/-- Walking on from where a walk arrives is one walk. -/
theorem walk?_append (document : Json) (before after : List Text) :
    document.walk? (before ++ after) =
      (document.walk? before).bind fun middle => middle.walk? after := by
  induction before generalizing document with
  | nil => rfl
  | cons segment rest inductionHypothesis =>
    rw [List.cons_append, walk?_cons, walk?_cons, Option.bind_assoc]
    exact congrArg _ (funext fun member => inductionHypothesis member)

/-- The members of the object at a path; where no object stands there are none. -/
def membersAt (document : Json) (path : List Text) : Fields Json :=
  ((document.walk? path).getD (.object [])).members

@[simp] theorem membersAt_nil (document : Json) : document.membersAt [] = document.members := rfl

theorem membersAt_cons (document : Json) (segment : Text) (path : List Text) :
    document.membersAt (segment :: path) =
      ((document.members.lookup segment).getD (.object [])).membersAt path := by
  rw [membersAt, membersAt, walk?_cons]
  cases document.members.lookup segment with
  | some member => rfl
  | none => cases path <;> rfl

/-- How a document reads along a path when it is what becomes of a given document by writing a
text along another path. -/
structure ReadsWritten (document : Json) (target : List Text) (value : Text) (updated : Json)
    (path : List Text) : Prop where
  /-- The text stands at the end of its path. -/
  atEnd : path = target → updated.walk? path = some (.string value)
  /-- Nothing stands behind the text. -/
  beyond : target <+: path → path ≠ target → updated.walk? path = none
  /-- On the way to the text stands an object. It has a member for the next segment, and beside
  it the members of the object that stood there. -/
  onTheWay : ∀ next rest, target = path ++ next :: rest → ∃ members : Fields Json,
    updated.walk? path = some (.object members) ∧ next ∈ members.names ∧
      members.others next = (document.membersAt path).others next
  /-- Apart of the way everything is as it was. -/
  apart : Path.Apart target path → updated.walk? path = document.walk? path

/-! ### What writing makes -/

/-- At every point of its path a text is written along the rest of it, in what stood there or
in an empty object. -/
theorem walk?_assign_append (document : Json) (value : Text) (path rest : List Text) :
    (document.assign value (path ++ rest)).walk? path =
      some (((document.walk? path).getD (.object [])).assign value rest) := by
  induction path generalizing document with
  | nil => rfl
  | cons segment tail inductionHypothesis =>
    rw [List.cons_append, assign_cons, walk?_cons, members, Fields.lookup_put_self,
      Option.bind_some, inductionHypothesis, walk?_cons]
    cases document.members.lookup segment with
    | some member => rfl
    | none => cases tail <;> rfl

theorem readsWritten_assign (document : Json) (target : List Text) (value : Text)
    (path : List Text) :
    ReadsWritten document target value (document.assign value target) path where
  atEnd := by
    rintro rfl
    exact walk?_assign_self document value path
  beyond := by
    rintro ⟨more, rfl⟩ differ
    have named : more ≠ [] := by
      rintro rfl
      exact differ (List.append_nil target)
    obtain ⟨segment, rest, rfl⟩ := List.exists_cons_of_ne_nil named
    rw [walk?_append, walk?_assign_self]
    rfl
  onTheWay := by
    rintro next rest rfl
    rw [walk?_assign_append, assign_cons]
    exact ⟨_, rfl, Fields.mem_names_put.2 (Or.inl rfl), Fields.others_put next _ _⟩
  apart := walk?_assign_of_apart document value

/-- What is read behind the first segment is read as if the rest were written in the member that
stood there. -/
theorem ReadsWritten.tail {document member : Json} {members : Fields Json} {segment value : Text}
    {rest path : List Text}
    (reads : ReadsWritten document (segment :: rest) value (.object members) (segment :: path))
    (present : members.lookup segment = some member) :
    ReadsWritten ((document.members.lookup segment).getD (.object [])) rest value member path := by
  have walked : (object members).walk? (segment :: path) = member.walk? path := by
    rw [walk?_cons, Json.members, present, Option.bind_some]
  refine ⟨fun same => ?_, fun behind differ => ?_, fun next more divided => ?_, fun apart => ?_⟩
  · rw [← walked]
    exact reads.atEnd (congrArg _ same)
  · rw [← walked]
    exact reads.beyond (List.cons_prefix_cons.2 ⟨rfl, behind⟩) (mt List.tail_eq_of_cons_eq differ)
  · rw [← walked, ← membersAt_cons]
    exact reads.onTheWay next more (congrArg _ divided)
  · rw [← walked, walk?_getD_empty _ apart.symm.ne_nil, ← walk?_cons]
    exact reads.apart (Path.apart_cons_cons.2 (Or.inr apart))

/-- An ordered document that reads as writing says is the one that writing makes. -/
theorem eq_assign_of_readsWritten {document updated : Json} {target : List Text} {value : Text}
    (ordered : document.Ordered) (updatedOrdered : updated.Ordered)
    (reads : ∀ path, ReadsWritten document target value updated path) :
    updated = document.assign value target := by
  induction target generalizing document updated with
  | nil => exact Option.some.inj ((reads []).atEnd rfl)
  | cons segment rest inductionHypothesis =>
    obtain ⟨found, object, named, kept⟩ := (reads []).onTheWay segment rest rfl
    obtain rfl : updated = .object found := Option.some.inj object
    obtain ⟨member, present⟩ := Option.isSome_iff_exists.1 (Fields.mem_names_iff.1 named)
    obtain ⟨ascending, each⟩ := updatedOrdered.members
    have written : member =
        ((document.members.lookup segment).getD (.object [])).assign value rest :=
      inductionHypothesis (ordered.member segment) (each _ (Fields.mem_of_lookup present))
        fun path => (reads (segment :: path)).tail present
    rw [assign_cons, ← written]
    refine congrArg Json.object ?_
    calc found
      _ = (found.others segment).put segment member := (ascending.put_others present).symm
      _ = (document.members.others segment).put segment member := by rw [kept, membersAt_nil]
      _ = ((document.members.put segment member).others segment).put segment member := by
        rw [Fields.others_put]
      _ = document.members.put segment member :=
        (ordered.members.1.put segment member).put_others (Fields.lookup_put_self _ _ _)

end Json

/-- An assignment is an exact update of the document. Along every path the updated document
reads so: at the path of the assignment its text; behind it nothing; on the way to it an
object, with the member that leads on and beside it the members of the object that stood
there, or no others where none stood; and apart of it what was there. No other ordered
document reads so, if the document is ordered. -/
theorem assignment_updates_exactly (document : Json) (assignment : Assignment) :
    (∀ path, Json.ReadsWritten document (Path.segments assignment.path) assignment.value
        (document.apply assignment) path) ∧
      (document.Ordered → (document.apply assignment).Ordered ∧
        ∀ updated : Json, updated.Ordered →
          (∀ path, Json.ReadsWritten document (Path.segments assignment.path) assignment.value
            updated path) →
          updated = document.apply assignment) :=
  ⟨Json.readsWritten_assign document _ _, fun ordered =>
    ⟨ordered.assign _ _, fun _ updatedOrdered reads =>
      Json.eq_assign_of_readsWritten ordered updatedOrdered reads⟩⟩

/-- A text in the way gives way to an object, and the member beside it stays. -/
theorem assignment_updates_exactly_flat :
    let document : Json := .object [("keep".toList, .string "me".toList),
      ("user".toList, .string "flat".toList)]
    let updated := document.apply ⟨"user.name".toList, "Ada".toList⟩
    document.Ordered ∧ updated.Ordered ∧
      updated.walk? ["user".toList, "name".toList] = some (.string "Ada".toList) ∧
      updated.walk? ["user".toList, "name".toList, "first".toList] = none ∧
      (∃ members : Fields Json, updated.walk? ["user".toList] = some (.object members) ∧
        members.others "name".toList = []) ∧
      (∃ members : Fields Json, updated.walk? [] = some (.object members) ∧
        members.others "user".toList = [("keep".toList, .string "me".toList)]) ∧
      updated.walk? ["keep".toList] = some (.string "me".toList) := by
  intro document updated
  have ordered : document.Ordered := .object (by decide)
    (List.forall_mem_cons.2 ⟨.string _, List.forall_mem_singleton.2 (.string _)⟩)
  obtain ⟨reads, unique⟩ :=
    assignment_updates_exactly document ⟨"user.name".toList, "Ada".toList⟩
  obtain ⟨inner, innerRead, -, innerOthers⟩ := (reads ["user".toList]).onTheWay _ _ rfl
  obtain ⟨outer, outerRead, -, outerOthers⟩ := (reads []).onTheWay _ _ rfl
  refine ⟨ordered, (unique ordered).1, (reads _).atEnd rfl, (reads _).beyond ?_ ?_,
    ⟨inner, innerRead, innerOthers⟩, ⟨outer, outerRead, outerOthers⟩, (reads _).apart ?_⟩
  · decide
  · decide
  · decide

end Stencil
