/-
This file holds JSON documents. A number is kept as it is spelled, because nothing
here computes with it. The members of an object are fields; a document is ordered
when those of every object in it ascend, which makes equal documents the same
tree. Walking reads a document along segments, through objects only.
-/

import Stencil.Fields

namespace Stencil

/-- A JSON document. -/
inductive Json where
  | null
  | boolean (value : Bool)
  | number (literal : Text)
  | string (content : Text)
  | array (items : List Json)
  | object (members : List (Text × Json))
  deriving Inhabited

namespace Json

/-- What holds of every array whose items have it, of every object whose members have it, and of
the other documents, holds of all documents. -/
@[elab_as_elim]
theorem inductionOn {Holds : Json → Prop} (document : Json) (null : Holds .null)
    (boolean : ∀ value, Holds (.boolean value)) (number : ∀ literal, Holds (.number literal))
    (string : ∀ content, Holds (.string content))
    (array : ∀ items, (∀ item ∈ items, Holds item) → Holds (.array items))
    (object : ∀ members, (∀ member ∈ members, Holds member.2) → Holds (.object members)) :
    Holds document :=
  @Json.rec Holds (fun items => ∀ item ∈ items, Holds item)
    (fun members => ∀ member ∈ members, Holds member.2) (fun member => Holds member.2)
    null boolean number string array object
    nofun (fun _ _ first later => List.forall_mem_cons.2 ⟨first, later⟩)
    nofun (fun _ _ first later => List.forall_mem_cons.2 ⟨first, later⟩)
    (fun _ _ held => held) document

/-- The six shapes of a document. -/
inductive Kind where
  | null
  | boolean
  | number
  | string
  | array
  | object
  deriving DecidableEq, Repr

/-- The name of a shape, as messages give it. -/
def Kind.name : Kind → String
  | .null => "null"
  | .boolean => "boolean"
  | .number => "number"
  | .string => "string"
  | .array => "array"
  | .object => "object"

/-- The shape of a document. -/
def kind : Json → Kind
  | .null => .null
  | .boolean _ => .boolean
  | .number _ => .number
  | .string _ => .string
  | .array _ => .array
  | .object _ => .object

/-- Every object in the document has its members in ascending order. -/
inductive Ordered : Json → Prop where
  | null : Ordered .null
  | boolean (value : Bool) : Ordered (.boolean value)
  | number (literal : Text) : Ordered (.number literal)
  | string (content : Text) : Ordered (.string content)
  | array {items : List Json} (each : ∀ item ∈ items, Ordered item) : Ordered (.array items)
  | object {members : List (Text × Json)} (ascending : Fields.Ordered members)
      (each : ∀ member ∈ members, Ordered member.2) : Ordered (.object members)

/-- The members of an object; a document of another shape has none. -/
def members : Json → Fields Json
  | .object members => members
  | _ => []

/-- The members of an ordered document ascend and are ordered. -/
theorem Ordered.members {document : Json} (ordered : document.Ordered) :
    document.members.Ordered ∧ ∀ member ∈ document.members, member.2.Ordered := by
  cases ordered with
  | object ascending each => exact ⟨ascending, each⟩
  | _ => exact ⟨Fields.ordered_nil, fun _ member => absurd member List.not_mem_nil⟩

/-- The part of a document that the segments lead to, each naming a member of an object. -/
def walk? (document : Json) : List Text → Option Json
  | [] => some document
  | segment :: rest => (document.members.lookup segment).bind fun member => walk? member rest

@[simp] theorem walk?_nil (document : Json) : document.walk? [] = some document := by
  rw [walk?]

@[simp] theorem walk?_cons (document : Json) (segment : Text) (rest : List Text) :
    document.walk? (segment :: rest) =
      (document.members.lookup segment).bind fun member => member.walk? rest := by
  rw [walk?]

end Json

end Stencil
