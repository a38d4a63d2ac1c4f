/-
This file says which of some names are suggested for a misspelled one, and in which order. The
order is total: of two names the one with fewer edits comes first, and of two with as many the one
that is less by code points, so only one list of the close names is in order, and it is the same
however the names were enumerated. A path is corrected at the one record that lacks its next
segment, with the least of the close names there, and so neither the correction nor its absence
depends on the order in which a record gives out its names.
-/

import Stencil.Proofs.Text.Edits
import Stencil.Proofs.Value.Suggestion

namespace Stencil

namespace Suggestion

/-! ### The order of suggestions -/

section

variable {first second : Nat × Text}

theorem precedes_iff : precedes first second = true ↔
    first.1 < second.1 ∨ (first.1 = second.1 ∧ ¬ second.2 < first.2) := by
  simp only [precedes, Bool.or_eq_true, Bool.and_eq_true, Bool.not_eq_true', decide_eq_true_eq,
    decide_eq_false_iff_not]

theorem precedes_trans (first second third : Nat × Text) (before : precedes first second = true)
    (after : precedes second third = true) : precedes first third = true := by
  rw [precedes_iff] at before after ⊢
  rcases before with nearer | ⟨same, least⟩
  · rcases after with nearer' | ⟨same', -⟩
    · exact Or.inl (Nat.lt_trans nearer nearer')
    · exact Or.inl (same' ▸ nearer)
  · rcases after with nearer' | ⟨same', least'⟩
    · exact Or.inl (same ▸ nearer')
    · refine Or.inr ⟨same.trans same', fun beyond => ?_⟩
      rcases Std.lt_trichotomy second.2 third.2 with below | equal | below
      · exact least (List.lt_trans below beyond)
      · exact least (equal ▸ beyond)
      · exact least' below

theorem precedes_total (first second : Nat × Text) :
    (precedes first second || precedes second first) = true := by
  rw [Bool.or_eq_true, precedes_iff, precedes_iff]
  rcases Nat.lt_trichotomy first.1 second.1 with nearer | same | nearer
  · exact Or.inl (Or.inl nearer)
  · rcases Classical.em (second.2 < first.2) with below | least
    · exact Or.inr (Or.inr ⟨same.symm, Std.not_gt_of_lt below⟩)
    · exact Or.inl (Or.inr ⟨same, least⟩)
  · exact Or.inr (Or.inl nearer)

theorem eq_of_precedes (before : precedes first second = true)
    (after : precedes second first = true) : first = second := by
  rw [precedes_iff] at before after
  have same : first.1 = second.1 := by omega
  have least := (before.resolve_left (Nat.not_lt_of_le (Nat.le_of_eq same.symm))).2
  have least' := (after.resolve_left (Nat.not_lt_of_le (Nat.le_of_eq same))).2
  rcases Std.lt_trichotomy first.2 second.2 with below | equal | beyond
  · exact absurd below least'
  · exact Prod.ext same equal
  · exact absurd beyond least

end

variable {name first second key : Text} {candidates shuffled listed : List Text}

/-- A name is one or two edits away. -/
def IsClose (name candidate : Text) : Prop :=
  Text.editDistance name candidate = 1 ∨ Text.editDistance name candidate = 2

instance (name candidate : Text) : Decidable (IsClose name candidate) :=
  inferInstanceAs (Decidable (_ ∨ _))

/-- A name is fewer edits away than another, or as many and no greater by code points. -/
def NoLater (name first second : Text) : Prop :=
  Text.editDistance name first < Text.editDistance name second ∨
    (Text.editDistance name first = Text.editDistance name second ∧ ¬ second < first)

instance (name first second : Text) : Decidable (NoLater name first second) :=
  inferInstanceAs (Decidable (_ ∨ _))

/-- A candidate with its distance from a name. -/
def withDistance (name candidate : Text) : Nat × Text :=
  (Text.editDistance name candidate, candidate)

theorem precedes_withDistance_iff :
    precedes (withDistance name first) (withDistance name second) = true ↔
      NoLater name first second :=
  precedes_iff

theorem NoLater.refl (name first : Text) : NoLater name first first :=
  Or.inr ⟨rfl, List.lt_irrefl first⟩

theorem NoLater.antisymm (before : NoLater name first second)
    (after : NoLater name second first) : first = second :=
  congrArg Prod.snd
    (eq_of_precedes (precedes_withDistance_iff.2 before) (precedes_withDistance_iff.2 after))

/-! ### The list of suggestions -/

/-- A candidate is scored when it is close; a candidate that is the name itself is not. -/
theorem scored?_eq (name candidate : Text) : scored? name candidate =
    if IsClose name candidate then some (withDistance name candidate) else none := by
  have itself : candidate = name ↔ Text.editDistance name candidate = 0 :=
    eq_comm.trans Text.editDistance_eq_zero_iff.symm
  have close : Text.editDistance name candidate ≤ maximalDistance ∧ candidate ≠ name ↔
      IsClose name candidate := by
    rw [ne_eq, itself, maximalDistance, IsClose]
    omega
  rw [scored?]
  simp only [close]
  rfl

theorem filterMap_scored? (name : Text) (candidates : List Text) :
    candidates.filterMap (scored? name) =
      (candidates.filter (IsClose name)).map (withDistance name) := by
  induction candidates with
  | nil => rfl
  | cons candidate rest inductionHypothesis =>
    rw [List.filterMap_cons, List.filter_cons, scored?_eq, inductionHypothesis]
    by_cases close : IsClose name candidate
    · simp [close]
    · simp [close]

/-- What is suggested are the close candidates, each as often as it was given. -/
theorem close_perm_filter (name : Text) (candidates : List Text) :
    (close name candidates).Perm (candidates.filter (IsClose name)) := by
  have unscored : ((candidates.filter (IsClose name)).map (withDistance name)).map Prod.snd =
      candidates.filter (IsClose name) := by
    rw [List.map_map]
    exact List.map_id _
  have perm := close_perm name candidates
  rwa [filterMap_scored?, unscored] at perm

theorem pairwise_close (name : Text) (candidates : List Text) :
    (close name candidates).Pairwise (NoLater name) := by
  have sorted : ((candidates.filterMap (scored? name)).mergeSort precedes).Pairwise
      fun first second => precedes first second = true :=
    List.pairwise_mergeSort precedes_trans precedes_total _
  rw [close, List.pairwise_map]
  refine sorted.imp_of_mem fun {first second} firstListed secondListed before => ?_
  rw [List.mem_mergeSort, filterMap_scored?] at firstListed secondListed
  obtain ⟨candidate, -, rfl⟩ := List.mem_map.1 firstListed
  obtain ⟨candidate', -, rfl⟩ := List.mem_map.1 secondListed
  exact precedes_withDistance_iff.1 before

/-- Only one list of the close candidates is in order. -/
theorem eq_close_iff : listed = close name candidates ↔
    listed.Perm (candidates.filter (IsClose name)) ∧ listed.Pairwise (NoLater name) := by
  constructor
  · rintro rfl
    exact ⟨close_perm_filter name candidates, pairwise_close name candidates⟩
  · rintro ⟨perm, inOrder⟩
    exact List.Perm.eq_of_pairwise (fun _ _ _ _ => NoLater.antisymm) inOrder
      (pairwise_close name candidates) (perm.trans (close_perm_filter name candidates).symm)

theorem close_eq_of_perm (perm : shuffled.Perm candidates) :
    close name shuffled = close name candidates := by
  refine eq_close_iff.2 ⟨?_, pairwise_close name shuffled⟩
  exact (close_perm_filter name shuffled).trans (perm.filter _)

theorem mem_close_iff : key ∈ close name candidates ↔ key ∈ candidates ∧ IsClose name key := by
  rw [(close_perm_filter name candidates).mem_iff, List.mem_filter, decide_eq_true_eq]

/-! ### The first suggestion -/

/-- Of the names within two edits a name is the least, by edits and then by code points. -/
structure Nearest (name : Text) (names : List Text) (key : Text) : Prop where
  mem : key ∈ names
  within : Text.editDistance name key ≤ 2
  noLater : ∀ other ∈ names, Text.editDistance name other ≤ 2 → NoLater name key other

/-- Among names that lack one, being within two edits of it is being close to it. -/
theorem isClose_iff_of_not_mem {names : List Text} (missing : name ∉ names) (listed : key ∈ names) :
    IsClose name key ↔ Text.editDistance name key ≤ 2 := by
  have apart : Text.editDistance name key ≠ 0 := by
    intro zero
    exact missing (Text.editDistance_eq_zero_iff.1 zero ▸ listed)
  rw [IsClose]
  omega

theorem head?_close_eq_some_iff {names : List Text} (missing : name ∉ names) :
    (close name names).head? = some key ↔ Nearest name names key := by
  have close_iff {other : Text} : other ∈ close name names ↔
      other ∈ names ∧ Text.editDistance name other ≤ 2 := by
    rw [mem_close_iff]
    exact and_congr_right (isClose_iff_of_not_mem missing)
  constructor
  · intro first
    obtain ⟨rest, listed⟩ := List.head?_eq_some_iff.1 first
    have inOrder := pairwise_close name names
    rw [listed, List.pairwise_cons] at inOrder
    obtain ⟨mem, within⟩ := close_iff.1 (List.mem_of_head? first)
    refine ⟨mem, within, fun other otherMem otherWithin => ?_⟩
    have member := close_iff.2 ⟨otherMem, otherWithin⟩
    rw [listed] at member
    rcases List.mem_cons.1 member with rfl | later
    · exact NoLater.refl name other
    · exact inOrder.1 other later
  · intro nearest
    have member := close_iff.2 ⟨nearest.mem, nearest.within⟩
    cases listed : close name names with
    | nil =>
      rw [listed] at member
      exact absurd member List.not_mem_nil
    | cons head rest =>
      have inOrder := pairwise_close name names
      rw [listed, List.pairwise_cons] at inOrder
      rw [listed] at member
      obtain ⟨headMem, headWithin⟩ := close_iff.1 (listed ▸ List.mem_cons_self)
      have least := nearest.noLater head headMem headWithin
      rcases List.mem_cons.1 member with rfl | later
      · rfl
      · exact congrArg some ((inOrder.1 key later).antisymm least)

/-! ### The path that is suggested -/

/-- Segments lead to a record that lacks the next one. -/
structure EndsAt (value : Value) (segments front : List Text) (segment : Text) (rest : List Text)
    (fields : Fields Value) : Prop where
  divided : segments = front ++ segment :: rest
  walked : value.walk? front = some (.record fields)
  missing : fields.lookup segment = none

section

variable {value : Value} {segments corrected front rest : List Text} {segment : Text}
  {fields : Fields Value}

theorem EndsAt.not_mem_names (ends : EndsAt value segments front segment rest fields) :
    segment ∉ fields.names := by
  intro listed
  have found := Fields.mem_names_iff.1 listed
  rw [ends.missing] at found
  contradiction

theorem EndsAt.reachAlong_eq (ends : EndsAt value segments front segment rest fields) :
    value.reachAlong segments = front.length := by
  have stops : (Value.record fields).reachAlong (segment :: rest) = 0 := by
    rw [Value.reachAlong_cons, Value.field?_record, ends.missing]
    rfl
  rw [ends.divided, Value.reachAlong_append ends.walked, stops, Nat.add_zero]

/-- There is one record at most at which segments end. -/
theorem EndsAt.unique {front' rest' : List Text} {segment' : Text} {fields' : Fields Value}
    (ends : EndsAt value segments front segment rest fields)
    (other : EndsAt value segments front' segment' rest' fields') :
    front' = front ∧ segment' = segment ∧ rest' = rest ∧ fields' = fields := by
  have sameLength : front'.length = front.length :=
    other.reachAlong_eq.symm.trans ends.reachAlong_eq
  have whole : front' ++ segment' :: rest' = front ++ segment :: rest :=
    other.divided.symm.trans ends.divided
  obtain ⟨rfl, behind⟩ := List.append_inj whole sameLength
  obtain ⟨rfl, rfl⟩ := List.cons.inj behind
  have sameRecord := other.walked.symm.trans ends.walked
  exact ⟨rfl, rfl, rfl, Value.record.inj (Option.some.inj sameRecord)⟩

/-- The correction puts the nearest name of the record in the place of the segment it lacks. -/
theorem correct?_eq_some_iff_nearest : correct? value segments = some corrected ↔
    ∃ front segment rest fields key, EndsAt value segments front segment rest fields ∧
      Nearest segment fields.names key ∧ corrected = front ++ key :: rest := by
  rw [correct?_eq_some_iff]
  constructor
  · rintro ⟨front, segment, key, rest, fields, divided, walked, missing, closest, rfl⟩
    have ends : EndsAt value segments front segment rest fields := ⟨divided, walked, missing⟩
    exact ⟨front, segment, rest, fields, key, ends,
      (head?_close_eq_some_iff ends.not_mem_names).1 closest, rfl⟩
  · rintro ⟨front, segment, rest, fields, key, ends, nearest, rfl⟩
    exact ⟨front, segment, key, rest, fields, ends.divided, ends.walked, ends.missing,
      (head?_close_eq_some_iff ends.not_mem_names).2 nearest, rfl⟩

/-- Nothing is corrected where no record lacks a segment, or no name of it is within two edits. -/
theorem correct?_eq_none_iff : correct? value segments = none ↔
    ∀ front segment rest fields, EndsAt value segments front segment rest fields →
      ∀ key ∈ fields.names, 2 < Text.editDistance segment key := by
  constructor
  · intro absent front segment rest fields ends key listed
    refine Nat.lt_of_not_le fun within => ?_
    have isClose : IsClose segment key :=
      (isClose_iff_of_not_mem ends.not_mem_names listed).2 within
    have someClose : close segment fields.names ≠ [] :=
      List.ne_nil_of_mem (mem_close_iff.2 ⟨listed, isClose⟩)
    obtain ⟨nearest, behind, isFirst⟩ := List.exists_cons_of_ne_nil someClose
    have first : (close segment fields.names).head? = some nearest := by
      rw [isFirst, List.head?_cons]
    have found := correct?_eq_some_iff_nearest.2 ⟨front, segment, rest, fields, nearest, ends,
      (head?_close_eq_some_iff ends.not_mem_names).1 first, rfl⟩
    rw [absent] at found
    contradiction
  · intro far
    rw [Option.eq_none_iff_forall_ne_some]
    intro corrected found
    obtain ⟨front, segment, rest, fields, key, ends, nearest, -⟩ :=
      correct?_eq_some_iff_nearest.1 found
    have beyond := far front segment rest fields ends key nearest.mem
    exact Nat.not_le_of_lt beyond nearest.within

end

/-! ### The order in which names are enumerated -/

/-- The segments with the first one that leads nowhere corrected, when records give out their
names as an enumeration does. -/
def correctIn? (enumerate : Fields Value → List Text) (value : Value) :
    List Text → Option (List Text)
  | [] => none
  | segment :: rest =>
    value.fields?.bind fun fields =>
      match fields.lookup segment with
      | some field => (correctIn? enumerate field rest).map (segment :: ·)
      | none => (close segment (enumerate fields)).head?.map (· :: rest)

/-- Every enumeration of the names gives the same correction. -/
theorem correctIn?_eq_correct? {enumerate : Fields Value → List Text}
    (enumerates : ∀ fields, (enumerate fields).Perm fields.names) (value : Value)
    (segments : List Text) : correctIn? enumerate value segments = correct? value segments := by
  induction segments generalizing value with
  | nil => rfl
  | cons segment rest inductionHypothesis =>
    rw [correctIn?, correct?]
    congr 1
    funext fields
    rw [close_eq_of_perm (enumerates fields)]
    cases fields.lookup segment with
    | none => rfl
    | some field => simp only [inductionHypothesis]

end Suggestion

/-- The path that is suggested when records give out their names as an enumeration does. -/
def Value.suggestIn? (enumerate : Fields Value → List Text) (root : Value) (path : Text) :
    Option Text :=
  (Suggestion.correctIn? enumerate root (Path.segments path)).map Path.ofSegments

/-- Suggestions do not depend on the order in which names are given. The distance that decides is
the least number of characters to put in, take out or change. The suggested names are the
candidates at distance one or two, each as often as it is given, in the one order by distance and
then by code points, so every shuffle of the candidates gives the same list. The path that is
suggested has the least of the names within distance two in the place of the segment that the one
record at which the path ends does not have, and there is none exactly when the path ends at no
record or the record has no such name; enumerating the names of the records in another order
suggests the same. -/
theorem suggestions_least_by_distance :
    (∀ first second : Text,
      IsLeast {count | Text.Edits count first second} (Text.editDistance first second)) ∧
    (∀ (name : Text) (candidates : List Text),
      (∀ listed, listed = Suggestion.close name candidates ↔
        listed.Perm (candidates.filter (Suggestion.IsClose name)) ∧
          listed.Pairwise (Suggestion.NoLater name)) ∧
      ∀ shuffled : List Text, shuffled.Perm candidates →
        Suggestion.close name shuffled = Suggestion.close name candidates) ∧
    ∀ (root : Value) (path : Text),
      (∀ suggested, root.suggest? path = some suggested ↔
        ∃ front segment rest fields key,
          Suggestion.EndsAt root (Path.segments path) front segment rest fields ∧
          Suggestion.Nearest segment fields.names key ∧
          suggested = Path.ofSegments (front ++ key :: rest)) ∧
      (root.suggest? path = none ↔ ∀ front segment rest fields,
        Suggestion.EndsAt root (Path.segments path) front segment rest fields →
          ∀ key ∈ fields.names, 2 < Text.editDistance segment key) ∧
      (∀ front segment rest fields front' segment' rest' fields',
        Suggestion.EndsAt root (Path.segments path) front segment rest fields →
        Suggestion.EndsAt root (Path.segments path) front' segment' rest' fields' →
          front' = front ∧ segment' = segment ∧ rest' = rest ∧ fields' = fields) ∧
      ∀ enumerate : Fields Value → List Text, (∀ fields, (enumerate fields).Perm fields.names) →
        root.suggestIn? enumerate path = root.suggest? path := by
  refine ⟨Text.isLeast_editDistance, fun name candidates => ⟨fun _ => Suggestion.eq_close_iff,
    fun _ => Suggestion.close_eq_of_perm⟩, fun root path => ⟨fun suggested => ?_, ?_, ?_, ?_⟩⟩
  · rw [Value.suggest?, Option.map_eq_some_iff]
    constructor
    · rintro ⟨corrected, found, rfl⟩
      obtain ⟨front, segment, rest, fields, key, ends, nearest, rfl⟩ :=
        Suggestion.correct?_eq_some_iff_nearest.1 found
      exact ⟨front, segment, rest, fields, key, ends, nearest, rfl⟩
    · rintro ⟨front, segment, rest, fields, key, ends, nearest, rfl⟩
      exact ⟨_, Suggestion.correct?_eq_some_iff_nearest.2
        ⟨front, segment, rest, fields, key, ends, nearest, rfl⟩, rfl⟩
  · rw [Value.suggest?, Option.map_eq_none_iff]
    exact Suggestion.correct?_eq_none_iff
  · exact fun _ _ _ _ _ _ _ _ ends other => ends.unique other
  · intro enumerate enumerates
    rw [Value.suggestIn?, Value.suggest?, Suggestion.correctIn?_eq_correct? enumerates]

/-- Names that are equally near, one of them given twice, are suggested in one order, and of three
equally near names of a record the least one is taken from either end. -/
theorem equally_near_names_ordered :
    let candidates : List Text :=
      ["tags".toList, "tab".toList, "tag".toList, "bag".toList, "tags".toList, "table".toList]
    let listed : List Text := ["bag".toList, "tab".toList, "tags".toList, "tags".toList]
    let names : Fields Value :=
      [("maem".toList, .text []), ("nae".toList, .text []), ("naemx".toList, .text [])]
    let root : Value := .record [("page".toList, .record names)]
    let path : Text := "page.naem".toList
    Suggestion.close "tag".toList candidates = listed ∧
      Suggestion.close "tag".toList candidates.reverse = listed ∧
      root.suggest? path = some "page.maem".toList ∧
      root.suggestIn? (fun fields => fields.names.reverse) path = some "page.maem".toList := by
  intro candidates listed names root path
  obtain ⟨-, lists, paths⟩ := suggestions_least_by_distance
  obtain ⟨sorted, shuffled⟩ := lists "tag".toList candidates
  obtain ⟨suggested, -, -, enumerated⟩ := paths root path
  have inOrder : Suggestion.close "tag".toList candidates = listed :=
    ((sorted listed).2 ⟨by decide +kernel, by decide +kernel⟩).symm
  have backward := shuffled candidates.reverse (List.reverse_perm candidates)
  have ends : Suggestion.EndsAt root (Path.segments path) ["page".toList] "naem".toList [] names :=
    ⟨by decide +kernel, rfl, by decide +kernel⟩
  have nearest : Suggestion.Nearest "naem".toList names.names "maem".toList :=
    ⟨by decide +kernel, by decide +kernel, by decide +kernel⟩
  have least := (suggested "page.maem".toList).2
    ⟨_, _, _, _, _, ends, nearest, by decide +kernel⟩
  have fromTheEnd := enumerated (fun fields => fields.names.reverse) fun fields =>
    List.reverse_perm fields.names
  exact ⟨inOrder, backward.trans inOrder, least, fromTheEnd.trans least⟩

end Stencil
