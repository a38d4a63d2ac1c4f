/-
This file holds the data that a template is filled with: a tree of texts, lists
and records. The fields of a record are kept in ascending order, so two values
with the same content are the same tree and equality of values can be decided.
Looking up a dotted path walks through records only.
-/

import Stencil.Fields
import Stencil.Path

namespace Stencil

/-- The data of a template. -/
inductive Value where
  | text (content : Text)
  | list (items : List Value)
  | record (fields : List (Text × Value))
  deriving Inhabited

/-- What a path leads to: a value of one of the three shapes, or nothing. -/
inductive Shape where
  | text
  | list
  | record
  | missing
  deriving DecidableEq, Repr

namespace Value

/-- What holds of every text, of every list whose items have it and of every record whose fields
have it, holds of all values. -/
@[elab_as_elim]
theorem inductionOn {Holds : Value → Prop} (value : Value)
    (text : ∀ content, Holds (.text content))
    (list : ∀ items, (∀ item ∈ items, Holds item) → Holds (.list items))
    (record : ∀ fields, (∀ field ∈ fields, Holds field.2) → Holds (.record fields)) :
    Holds value :=
  @Value.rec Holds (fun items => ∀ item ∈ items, Holds item)
    (fun fields => ∀ field ∈ fields, Holds field.2) (fun field => Holds field.2)
    text list record
    nofun (fun _ _ first later => List.forall_mem_cons.2 ⟨first, later⟩)
    nofun (fun _ _ first later => List.forall_mem_cons.2 ⟨first, later⟩)
    (fun _ _ held => held) value

/-! ### Equality -/

mutual

/-- Whether two values are the same. -/
def decideEq (first second : Value) : Decidable (first = second) :=
  match first, second with
  | .text content, .text content' =>
    if same : content = content' then isTrue (by rw [same])
    else isFalse (fun equal => same (Value.text.inj equal))
  | .list items, .list items' =>
    match decideItemsEq items items' with
    | isTrue same => isTrue (by rw [same])
    | isFalse differ => isFalse (fun equal => differ (Value.list.inj equal))
  | .record fields, .record fields' =>
    match decideFieldsEq fields fields' with
    | isTrue same => isTrue (by rw [same])
    | isFalse differ => isFalse (fun equal => differ (Value.record.inj equal))
  | .text _, .list _ => isFalse (fun equal => nomatch equal)
  | .text _, .record _ => isFalse (fun equal => nomatch equal)
  | .list _, .text _ => isFalse (fun equal => nomatch equal)
  | .list _, .record _ => isFalse (fun equal => nomatch equal)
  | .record _, .text _ => isFalse (fun equal => nomatch equal)
  | .record _, .list _ => isFalse (fun equal => nomatch equal)

/-- Whether two lists of values are the same. -/
def decideItemsEq (first second : List Value) : Decidable (first = second) :=
  match first, second with
  | [], [] => isTrue rfl
  | [], _ :: _ => isFalse (fun equal => nomatch equal)
  | _ :: _, [] => isFalse (fun equal => nomatch equal)
  | item :: rest, item' :: rest' =>
    match decideEq item item', decideItemsEq rest rest' with
    | isTrue same, isTrue same' => isTrue (by rw [same, same'])
    | isFalse differ, _ => isFalse (fun equal => differ (List.cons.inj equal).1)
    | _, isFalse differ => isFalse (fun equal => differ (List.cons.inj equal).2)

/-- Whether two lists of fields are the same. -/
def decideFieldsEq (first second : List (Text × Value)) : Decidable (first = second) :=
  match first, second with
  | [], [] => isTrue rfl
  | [], _ :: _ => isFalse (fun equal => nomatch equal)
  | _ :: _, [] => isFalse (fun equal => nomatch equal)
  | (name, item) :: rest, (name', item') :: rest' =>
    if named : name = name' then
      match decideEq item item', decideFieldsEq rest rest' with
      | isTrue same, isTrue same' => isTrue (by rw [named, same, same'])
      | isFalse differ, _ => isFalse (fun equal =>
          differ (Prod.mk.inj (List.cons.inj equal).1).2)
      | _, isFalse differ => isFalse (fun equal => differ (List.cons.inj equal).2)
    else isFalse (fun equal => named (Prod.mk.inj (List.cons.inj equal).1).1)

end

instance : DecidableEq Value := decideEq

/-- Every record in the value has its fields in ascending order. -/
inductive Ordered : Value → Prop where
  | text (content : Text) : Ordered (.text content)
  | list {items : List Value} (each : ∀ item ∈ items, Ordered item) : Ordered (.list items)
  | record {fields : List (Text × Value)} (ascending : Fields.Ordered fields)
      (each : ∀ field ∈ fields, Ordered field.2) : Ordered (.record fields)

/-- The record with the given fields; of several with one name the last one counts. -/
def ofFields (pairs : List (Text × Value)) : Value :=
  .record (Fields.ofList pairs)

/-! ### Shapes -/

/-- The content of a text. -/
def text? : Value → Option Text
  | .text content => some content
  | _ => none

/-- The items of a list. -/
def items? : Value → Option (List Value)
  | .list items => some items
  | _ => none

/-- The fields of a record. -/
def fields? : Value → Option (Fields Value)
  | .record fields => some fields
  | _ => none

/-- The shape of a value. -/
def shape : Value → Shape
  | .text _ => .text
  | .list _ => .list
  | .record _ => .record

end Value

namespace Shape

/-- The shape of what was looked up. -/
def ofOption : Option Value → Shape
  | none => .missing
  | some value => value.shape

/-- The name of a shape, as messages give it. -/
def name : Shape → String
  | .text => "text"
  | .list => "list"
  | .record => "record"
  | .missing => "missing"

end Shape

namespace Value

/-! ### Looking up a path -/

/-- The field of a record; a text and a list have no fields. -/
def field? (value : Value) (name : Text) : Option Value :=
  value.fields?.bind fun fields => fields.lookup name

/-- The part of a value that the segments lead to, each naming a field of a record. -/
def walk? (value : Value) : List Text → Option Value
  | [] => some value
  | segment :: rest => (value.field? segment).bind fun field => walk? field rest

@[simp] theorem walk?_nil (value : Value) : value.walk? [] = some value := by
  rw [walk?]

@[simp] theorem walk?_cons (value : Value) (segment : Text) (rest : List Text) :
    value.walk? (segment :: rest) =
      (value.field? segment).bind fun field => field.walk? rest := by
  rw [walk?]

theorem walk?_record_cons (fields : List (Text × Value)) (segment : Text) (rest : List Text) :
    (record fields).walk? (segment :: rest) =
      (fields.lookup segment).bind fun field => field.walk? rest :=
  rfl

/-- Walking on from where a walk arrives is one walk. -/
theorem walk?_append (value : Value) (before after : List Text) :
    value.walk? (before ++ after) =
      (value.walk? before).bind fun middle => middle.walk? after := by
  induction before generalizing value with
  | nil => rfl
  | cons segment rest inductionHypothesis =>
    rw [List.cons_append, walk?_cons, walk?_cons, Option.bind_assoc]
    congr 1
    funext field
    exact inductionHypothesis field

/-- The part of a value that a dotted path leads to. -/
def lookup (value : Value) (path : Text) : Option Value :=
  value.walk? (Path.segments path)

@[simp] theorem lookup_nil (value : Value) : value.lookup [] = some value := by
  rw [lookup, Path.segments_nil, walk?_nil]

/-- The text that a path leads to. -/
def lookupText (value : Value) (path : Text) : Option Text :=
  (value.lookup path).bind text?

/-- The list that a path leads to. -/
def lookupItems (value : Value) (path : Text) : Option (List Value) :=
  (value.lookup path).bind items?

end Value

end Stencil
