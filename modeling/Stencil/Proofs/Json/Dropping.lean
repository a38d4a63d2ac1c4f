/-
This file says what it means that the numbers, booleans and nulls inside a document are
left out. One of them is dropped at a time, from whatever array or object it stands in,
and everything else stays where it is. The order in which they are dropped cannot be
seen: dropping does not change what pruning keeps, and of a document without numbers,
booleans and nulls pruning keeps everything. So the pruned document is the only one
without them that dropping leads to.
-/

import Mathlib.Data.List.Basic
import Mathlib.Logic.Relation
import Stencil.Json.Pruning

namespace Stencil

namespace Json

/-- A place in an array or an object, between what stands in front of it and behind it. -/
inductive Place where
  | inArray (before after : List Json)
  | inObject (before : List (Text × Json)) (name : Text) (after : List (Text × Json))

/-- The array or the object of a place, with a document in it or with nothing there. -/
def Place.fill : Place → Option Json → Json
  | inArray before after, held => .array (before ++ (held.toList ++ after))
  | inObject before name after, held =>
    .object (before ++ ((held.map fun item => (name, item)).toList ++ after))

/-- One number, boolean or null inside a document, at whatever depth, is left out. -/
inductive Drops : Json → Json → Prop where
  | here (place : Place) {item : Json} (unusable : item.isUsable = false) :
      Drops (place.fill (some item)) (place.fill none)
  | inside (place : Place) {item other : Json} (drops : Drops item other) :
      Drops (place.fill (some item)) (place.fill (some other))

/-- There are no numbers, booleans and nulls in the document. -/
inductive Clean : Json → Prop where
  | string (content : Text) : Clean (.string content)
  | array {items : List Json} (each : ∀ item ∈ items, Clean item) : Clean (.array items)
  | object {members : List (Text × Json)} (each : ∀ member ∈ members, Clean member.2) :
      Clean (.object members)

/-! ### Dropping does not change what is kept -/

theorem kept?_eq_some_iff {document kept : Json} :
    document.kept? = some kept ↔ document.isUsable = true ∧ document.prune = kept := by
  rw [kept?]
  split <;> simp [*]

/-- The place in the pruned array or object. -/
def Place.prune : Place → Place
  | inArray before after => inArray (pruneItems before) (pruneItems after)
  | inObject before name after => inObject (pruneMembers before) name (pruneMembers after)

/-- Of an array or an object everything around a place is kept as if nothing stood there. -/
theorem kept?_fill (place : Place) (held : Option Json) :
    (place.fill held).kept? = some (place.prune.fill (held.bind kept?)) := by
  cases place with
  | inArray before after =>
    refine congrArg (fun items => some (array items)) ?_
    simp only [pruneItems_eq_filterMap, List.filterMap_append]
    cases held with
    | none => rfl
    | some item => cases left : item.kept? <;> simp [left]
  | inObject before name after =>
    refine congrArg (fun members => some (object members)) ?_
    simp only [pruneMembers_eq_filterMap, List.filterMap_append]
    cases held with
    | none => rfl
    | some item => cases left : item.kept? <;> simp [left]

theorem Drops.kept?_eq {document other : Json} (drops : Drops document other) :
    document.kept? = other.kept? := by
  induction drops with
  | @here place item unusable =>
    have nothing : item.kept? = none := by simp [kept?, unusable]
    rw [kept?_fill, kept?_fill, Option.bind_some, nothing, Option.bind_none]
  | inside place drops inductionHypothesis =>
    rw [kept?_fill, kept?_fill, Option.bind_some, inductionHypothesis, Option.bind_some]

theorem kept?_eq_of_dropping {document other : Json}
    (dropping : Relation.ReflTransGen Drops document other) : document.kept? = other.kept? := by
  induction dropping with
  | refl => rfl
  | tail _ drops inductionHypothesis => exact inductionHypothesis.trans drops.kept?_eq

/-! ### Pruning drops -/

/-- A document in a place is dropped, or its own numbers, booleans and nulls are. -/
theorem dropping_fill (place : Place) {item : Json}
    (dropping : Relation.ReflTransGen Drops item item.prune) :
    Relation.ReflTransGen Drops (place.fill (some item)) (place.fill item.kept?) := by
  rw [kept?]
  split
  · exact dropping.lift (fun held => place.fill (some held)) fun _ _ => Drops.inside place
  · rename_i unusable
    exact .single (.here place (by simpa using unusable))

/-- What can be done to every item of a row, whatever stands around it, can be done to the whole
row, one item after the other. -/
theorem reflTransGen_row {Item Whole : Type} {Step : Whole → Whole → Prop}
    (whole : List Item → Whole) (change : Item → Option Item) {items : List Item}
    (each : ∀ item ∈ items, ∀ before after, Relation.ReflTransGen Step
      (whole (before ++ item :: after)) (whole (before ++ ((change item).toList ++ after))))
    (before : List Item) : Relation.ReflTransGen Step
      (whole (before ++ items)) (whole (before ++ items.filterMap change)) := by
  induction items generalizing before with
  | nil => exact .refl
  | cons item rest inductionHypothesis =>
    obtain ⟨first, later⟩ := List.forall_mem_cons.1 each
    have behind := inductionHypothesis later (before ++ (change item).toList)
    simp only [List.append_assoc] at behind
    refine (first before rest).trans (behind.trans ?_)
    rw [List.filterMap_cons]
    cases change item <;> exact .refl

/-- Dropping leads to the pruned document. -/
theorem dropping_prune (document : Json) :
    Relation.ReflTransGen Drops document document.prune := by
  induction document using inductionOn with
  | array items each =>
    rw [prune, pruneItems_eq_filterMap]
    exact reflTransGen_row Json.array kept? (fun item member before after =>
      dropping_fill (.inArray before after) (each item member)) []
  | object members each =>
    rw [prune, pruneMembers_eq_filterMap]
    exact reflTransGen_row Json.object _ (fun member inside before after =>
      dropping_fill (.inObject before member.1 after) (each member inside)) []
  | null => exact .refl
  | boolean value => exact .refl
  | number literal => exact .refl
  | string content => exact .refl

/-! ### Documents without numbers, booleans and nulls -/

/-- From a clean document nothing is left out. -/
theorem Clean.kept?_eq {document : Json} (clean : document.Clean) :
    document.kept? = some document := by
  induction clean with
  | string content => rfl
  | @array items each inductionHypothesis =>
    have same : pruneItems items = items := by
      rw [pruneItems_eq_filterMap, List.filterMap_congr inductionHypothesis, List.filterMap_some]
    show some (Json.array (pruneItems items)) = _
    rw [same]
  | @object members each inductionHypothesis =>
    have same : pruneMembers members = members := by
      rw [pruneMembers_eq_filterMap]
      refine (List.filterMap_congr fun member inside => ?_).trans List.filterMap_some
      rw [inductionHypothesis member inside, Option.map_some]
    show some (Json.object (pruneMembers members)) = _
    rw [same]

/-- What is kept is clean. -/
theorem clean_of_kept? {document kept : Json} (left : document.kept? = some kept) :
    kept.Clean := by
  induction document using inductionOn generalizing kept with
  | array items each =>
    obtain ⟨-, rfl⟩ := kept?_eq_some_iff.1 left
    rw [prune, pruneItems_eq_filterMap]
    refine .array fun item member => ?_
    obtain ⟨origin, inside, keptItem⟩ := List.mem_filterMap.1 member
    exact each origin inside keptItem
  | object members each =>
    obtain ⟨-, rfl⟩ := kept?_eq_some_iff.1 left
    rw [prune, pruneMembers_eq_filterMap]
    refine .object fun member inside => ?_
    obtain ⟨origin, originInside, named⟩ := List.mem_filterMap.1 inside
    obtain ⟨item, keptItem, rfl⟩ := Option.map_eq_some_iff.1 named
    exact each origin originInside keptItem
  | string content =>
    obtain rfl := Option.some.inj left
    exact .string content
  | null => contradiction
  | boolean value => contradiction
  | number literal => contradiction

/-- What is kept of a document is the one clean document that dropping leads to. -/
theorem dropping_clean_iff {document kept other : Json} (left : document.kept? = some kept) :
    Relation.ReflTransGen Drops document other ∧ other.Clean ↔ other = kept := by
  constructor
  · rintro ⟨dropping, clean⟩
    rw [kept?_eq_of_dropping dropping, clean.kept?_eq] at left
    exact Option.some.inj left
  · rintro rfl
    obtain ⟨-, pruned⟩ := kept?_eq_some_iff.1 left
    exact ⟨pruned ▸ dropping_prune document, clean_of_kept? left⟩

/-! ### Order -/

/-- What stands in a place of an ordered array or object is ordered. -/
theorem Ordered.of_fill {place : Place} {item : Json} (ordered : (place.fill (some item)).Ordered) :
    item.Ordered := by
  cases place with
  | inArray before after =>
    cases ordered with
    | array each => exact each item (by simp)
  | inObject before name after =>
    cases ordered with
    | object ascending each => exact each (name, item) (by simp)

/-- An ordered array or object stays ordered if an ordered document takes the place of another, or
if nothing does. -/
theorem Ordered.refill {place : Place} {item : Json} (ordered : (place.fill (some item)).Ordered)
    {held : Option Json} (heldOrdered : ∀ other, held = some other → other.Ordered) :
    (place.fill held).Ordered := by
  cases place with
  | inArray before after =>
    cases ordered with
    | array each =>
      refine .array fun other member => ?_
      rcases List.mem_append.1 member with front | later
      · exact each other (List.mem_append_left _ front)
      · rcases List.mem_append.1 later with here | back
        · exact heldOrdered other (Option.mem_toList.1 here)
        · exact each other (by simp [back])
  | inObject before name after =>
    cases ordered with
    | object ascending each =>
      refine .object (ascending.sublist ?_) fun other member => ?_
      · cases held <;> simp [Fields.names]
      · rcases List.mem_append.1 member with front | later
        · exact each other (List.mem_append_left _ front)
        · rcases List.mem_append.1 later with here | back
          · obtain ⟨document, filled, rfl⟩ := Option.map_eq_some_iff.1 (Option.mem_toList.1 here)
            exact heldOrdered document filled
          · exact each other (by simp [back])

/-- Dropping keeps a document ordered. -/
theorem Drops.ordered {document other : Json} (drops : Drops document other)
    (ordered : document.Ordered) : other.Ordered := by
  induction drops with
  | here place unusable => exact ordered.refill nofun
  | inside place drops inductionHypothesis =>
    refine ordered.refill ?_
    rintro _ ⟨⟩
    exact inductionHypothesis ordered.of_fill

theorem Ordered.of_dropping {document other : Json} (ordered : document.Ordered)
    (dropping : Relation.ReflTransGen Drops document other) : other.Ordered := by
  induction dropping with
  | refl => exact ordered
  | tail _ drops inductionHypothesis => exact drops.ordered inductionHypothesis

end Json

end Stencil
