/-
This file holds named fields: a list of pairs of a name and a value. Fields built
here are kept in the ascending order of their names with every name once, so that
two collections with the same content are the same list and the order in which
the fields were given cannot be seen. Writing a field is pinned down by what a
lookup finds afterwards.
-/

import Stencil.Text.Basic

namespace Stencil

/-- Values under names. -/
abbrev Fields (Item : Type) := List (Text × Item)

namespace Fields

variable {Item : Type}

/-- The names, in order. -/
def names (fields : Fields Item) : List Text :=
  fields.map Prod.fst

/-- The names ascend by code point, so no name stands twice. -/
def Ordered (fields : Fields Item) : Prop :=
  fields.names.Pairwise (· < ·)

instance (fields : Fields Item) : Decidable fields.Ordered :=
  inferInstanceAs (Decidable (List.Pairwise _ _))

/-- The fields with one written, in place of an earlier field of that name. -/
def put (name : Text) (item : Item) : Fields Item → Fields Item
  | [] => [(name, item)]
  | (head, value) :: rest =>
    if name < head then (name, item) :: (head, value) :: rest
    else if name = head then (name, item) :: rest
    else (head, value) :: put name item rest

/-- The fields with those of a list written one after the other, so the last one of a name
stays. -/
def putAll (fields : Fields Item) (pairs : List (Text × Item)) : Fields Item :=
  pairs.foldl (fun collected pair => collected.put pair.1 pair.2) fields

/-- The fields given by a list in any order; of several with one name the last one counts. -/
def ofList (pairs : List (Text × Item)) : Fields Item :=
  putAll [] pairs

/-! ### Looking up -/

@[simp] theorem lookup_put_self (name : Text) (item : Item) (fields : Fields Item) :
    (fields.put name item).lookup name = some item := by
  induction fields with
  | nil => simp [put]
  | cons field rest inductionHypothesis =>
    obtain ⟨head, value⟩ := field
    rw [put]
    split
    · simp
    · split
      · simp
      · rename_i differ
        have unequal : (name == head) = false := by simpa using differ
        simp [List.lookup_cons, unequal, inductionHypothesis]

theorem lookup_put_of_ne {name other : Text} (differ : other ≠ name) (item : Item)
    (fields : Fields Item) : (fields.put name item).lookup other = fields.lookup other := by
  have unequal : (other == name) = false := by simpa using differ
  induction fields with
  | nil => simp [put, List.lookup_cons, unequal]
  | cons field rest inductionHypothesis =>
    obtain ⟨head, value⟩ := field
    rw [put]
    split
    · simp [List.lookup_cons, unequal]
    · split
      · rename_i same
        subst same
        simp [List.lookup_cons, unequal]
      · simp [List.lookup_cons, inductionHypothesis]

/-- The names are those that a lookup finds. -/
theorem mem_names_iff {name : Text} {fields : Fields Item} :
    name ∈ fields.names ↔ (fields.lookup name).isSome := by
  induction fields with
  | nil => simp [names]
  | cons field rest inductionHypothesis =>
    obtain ⟨head, value⟩ := field
    simp only [names, List.map_cons, List.mem_cons] at inductionHypothesis ⊢
    by_cases same : name = head
    · subst same
      simp
    · have unequal : (name == head) = false := by simpa using same
      simp [same, List.lookup_cons, unequal, inductionHypothesis]

theorem mem_of_lookup {name : Text} {item : Item} {fields : Fields Item}
    (found : fields.lookup name = some item) : (name, item) ∈ fields := by
  obtain ⟨before, after, rfl, -⟩ := List.lookup_eq_some_iff.1 found
  exact List.mem_append_right before List.mem_cons_self

/-! ### Writing twice -/

/-- Of two values written under one name the later one stays. -/
theorem put_put_self (name : Text) (earlier later : Item) (fields : Fields Item) :
    (fields.put name earlier).put name later = fields.put name later := by
  induction fields with
  | nil => simp [put]
  | cons field rest inductionHypothesis =>
    obtain ⟨head, value⟩ := field
    by_cases below : name < head
    · simp [put, below]
    · by_cases same : name = head
      · subst same
        have replaced (held item : Item) :
            put name item ((name, held) :: rest) = (name, item) :: rest := by
          rw [put, if_neg below, if_pos rfl]
        rw [replaced, replaced, replaced]
      · simp [put, below, same, inductionHypothesis]

/-- Fields of different names can be written in either order. -/
theorem put_comm {name other : Text} (differ : name ≠ other) (item written : Item)
    (fields : Fields Item) :
    (fields.put name item).put other written = (fields.put other written).put name item := by
  induction fields with
  | nil =>
    rcases Std.lt_trichotomy name other with below | same | beyond
    · simp [put, below, Std.not_gt_of_lt below, differ.symm]
    · exact absurd same differ
    · simp [put, beyond, Std.not_gt_of_lt beyond, differ]
  | cons field rest inductionHypothesis =>
    -- Where the head stands among the two names decides which of the writings pass it.
    obtain ⟨head, value⟩ := field
    grind [put, List.lt_trans, List.lt_irrefl]

/-! ### What is written stands there -/

theorem mem_put {name : Text} {item : Item} {fields : Fields Item} {field : Text × Item}
    (member : field ∈ fields.put name item) : field = (name, item) ∨ field ∈ fields := by
  induction fields with
  | nil => exact Or.inl (List.mem_singleton.1 member)
  | cons head rest inductionHypothesis =>
    rw [put] at member
    split at member
    · exact List.mem_cons.1 member
    · split at member
      · exact (List.mem_cons.1 member).imp_right (List.mem_cons_of_mem head)
      · rcases List.mem_cons.1 member with rfl | later
        · exact Or.inr List.mem_cons_self
        · exact (inductionHypothesis later).imp_right (List.mem_cons_of_mem head)

theorem mem_putAll {fields : Fields Item} {pairs : List (Text × Item)} {field : Text × Item}
    (member : field ∈ fields.putAll pairs) : field ∈ fields ∨ field ∈ pairs := by
  induction pairs generalizing fields with
  | nil => exact Or.inl member
  | cons pair rest inductionHypothesis =>
    rcases inductionHypothesis member with inside | later
    · rcases mem_put inside with rfl | earlier
      · exact Or.inr List.mem_cons_self
      · exact Or.inl earlier
    · exact Or.inr (List.mem_cons_of_mem pair later)

theorem mem_ofList {pairs : List (Text × Item)} {field : Text × Item}
    (member : field ∈ ofList pairs) : field ∈ pairs :=
  (mem_putAll member).resolve_left List.not_mem_nil

/-! ### Order -/

theorem ordered_nil : Ordered ([] : Fields Item) :=
  List.Pairwise.nil

theorem ordered_cons {name : Text} {item : Item} {rest : Fields Item} :
    Ordered ((name, item) :: rest) ↔ (∀ other ∈ rest.names, name < other) ∧ rest.Ordered :=
  List.pairwise_cons

/-- No name stands twice. -/
theorem Ordered.nodup {fields : Fields Item} (ordered : fields.Ordered) : fields.names.Nodup := by
  refine List.Pairwise.imp ?_ ordered
  rintro first second below rfl
  exact List.lt_irrefl first below

/-- Under a name stands the one field of that name. -/
theorem Ordered.lookup_eq_some_iff {fields : Fields Item} (ordered : fields.Ordered) {name : Text}
    {item : Item} : fields.lookup name = some item ↔ (name, item) ∈ fields := by
  refine ⟨mem_of_lookup, fun member => ?_⟩
  induction fields with
  | nil => exact absurd member List.not_mem_nil
  | cons field rest inductionHypothesis =>
    obtain ⟨head, value⟩ := field
    obtain ⟨above, restOrdered⟩ := ordered_cons.1 ordered
    rcases List.mem_cons.1 member with same | later
    · obtain ⟨rfl, rfl⟩ := Prod.mk.inj same
      exact List.lookup_cons_self
    · have unequal : name ≠ head := by
        rintro rfl
        exact List.lt_irrefl name (above name (List.mem_map_of_mem later))
      rw [List.lookup_cons, beq_false_of_ne unequal]
      exact inductionHypothesis restOrdered later

theorem mem_names_put {name other : Text} {item : Item} {fields : Fields Item} :
    other ∈ (fields.put name item).names ↔ other = name ∨ other ∈ fields.names := by
  induction fields with
  | nil => simp [put, names]
  | cons field rest inductionHypothesis =>
    obtain ⟨head, value⟩ := field
    simp only [names] at inductionHypothesis ⊢
    rw [put]
    split
    · simp
    · split
      · rename_i same
        subst same
        simp
      · simp only [List.map_cons, List.mem_cons, inductionHypothesis]
        constructor
        · rintro (rfl | rfl | member)
          · exact Or.inr (Or.inl rfl)
          · exact Or.inl rfl
          · exact Or.inr (Or.inr member)
        · rintro (rfl | rfl | member)
          · exact Or.inr (Or.inl rfl)
          · exact Or.inl rfl
          · exact Or.inr (Or.inr member)

/-- Writing a field keeps the order. -/
theorem Ordered.put {fields : Fields Item} (ordered : fields.Ordered) (name : Text) (item : Item) :
    (fields.put name item).Ordered := by
  induction fields with
  | nil => exact ordered_cons.2 ⟨by simp [names], ordered_nil⟩
  | cons field rest inductionHypothesis =>
    obtain ⟨head, value⟩ := field
    obtain ⟨above, restOrdered⟩ := ordered_cons.1 ordered
    rw [Fields.put]
    split
    · rename_i below
      refine ordered_cons.2 ⟨fun other member => ?_, ordered⟩
      rcases List.mem_cons.1 (show other ∈ head :: names rest from member) with rfl | member
      · exact below
      · exact List.lt_trans below (above other member)
    · rename_i notBelow
      split
      · rename_i same
        subst same
        exact ordered
      · rename_i differ
        refine ordered_cons.2 ⟨fun other member => ?_, inductionHypothesis restOrdered⟩
        rcases mem_names_put.1 member with rfl | member
        · rcases Std.lt_trichotomy other head with below | same | beyond
          · exact absurd below notBelow
          · exact absurd same differ
          · exact beyond
        · exact above other member

theorem Ordered.putAll {fields : Fields Item} (ordered : fields.Ordered)
    (pairs : List (Text × Item)) : (fields.putAll pairs).Ordered := by
  induction pairs generalizing fields with
  | nil => exact ordered
  | cons pair rest inductionHypothesis => exact inductionHypothesis (ordered.put pair.1 pair.2)

theorem ordered_ofList (pairs : List (Text × Item)) : (ofList pairs).Ordered :=
  ordered_nil.putAll pairs

end Fields

end Stencil
