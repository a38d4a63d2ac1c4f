/-
This file says how far a suggested path leads. A path is corrected at the first record that
lacks its next segment, where one of the names of the record takes the place of the segment.
The corrected names are joined with dots and divided at dots when they are looked up. So a name
that a path can hold is walked along and the suggestion leads further than the path did, while a
name that is empty or holds a dot falls apart: then the suggestion leads as far as the path, and
further only where the record happens to have the segment that comes next.
-/

import Stencil.Render.Suggestion

namespace Stencil

namespace Value

/-! ### How far segments lead -/

/-- How many of some segments can be walked along, from the first on. -/
def reachAlong (value : Value) : List Text → Nat
  | [] => 0
  | segment :: rest =>
    match value.field? segment with
    | some field => field.reachAlong rest + 1
    | none => 0

/-- How many segments of a path can be walked along, from the first on. -/
def reach (root : Value) (path : Text) : Nat :=
  root.reachAlong (Path.segments path)

theorem reachAlong_cons (value : Value) (segment : Text) (rest : List Text) :
    value.reachAlong (segment :: rest) =
      ((value.field? segment).map fun field => field.reachAlong rest + 1).getD 0 := by
  rw [reachAlong]
  cases value.field? segment <;> rfl

/-- As many segments can be walked along as those in front of which a walk arrives. -/
theorem le_reachAlong_iff {value : Value} {segments : List Text} {count : Nat} :
    count ≤ value.reachAlong segments ↔
      count ≤ segments.length ∧ (value.walk? (segments.take count)).isSome := by
  induction segments generalizing value count with
  | nil => simp [reachAlong]
  | cons segment rest inductionHypothesis =>
    cases count with
    | zero => simp
    | succ count =>
      rw [reachAlong_cons, List.take_succ_cons, walk?_cons, List.length_cons]
      cases value.field? segment with
      | none => simp
      | some field => simp [inductionHypothesis]

/-- The reach of a path is the length of its longest front that leads somewhere. -/
theorem le_reach_iff {root : Value} {path : Text} {count : Nat} :
    count ≤ root.reach path ↔ count ≤ (Path.segments path).length ∧
      (root.lookup (Path.ofSegments ((Path.segments path).take count))).isSome := by
  have names : ∀ name ∈ (Path.segments path).take count, Path.IsName name :=
    fun name member => Path.isName_of_mem_segments (List.mem_of_mem_take member)
  rw [reach, le_reachAlong_iff, lookup, Path.segments_ofSegments,
    Path.flatMap_segments_of_isName names]

/-- Behind segments that lead to a part the walk goes on in the part. -/
theorem reachAlong_append {value middle : Value} {front : List Text}
    (walked : value.walk? front = some middle) (rest : List Text) :
    value.reachAlong (front ++ rest) = front.length + middle.reachAlong rest := by
  induction front generalizing value with
  | nil =>
    obtain rfl := Option.some.inj walked
    exact (Nat.zero_add _).symm
  | cons segment later inductionHypothesis =>
    rw [walk?_cons] at walked
    obtain ⟨field, found, onward⟩ := Option.bind_eq_some_iff.1 walked
    rw [List.cons_append, reachAlong_cons, found, List.length_cons]
    simp only [Option.map_some, Option.getD_some, inductionHypothesis onward]
    omega

theorem reachAlong_pos_iff {value : Value} {segments : List Text} :
    0 < value.reachAlong segments ↔
      ∃ next ∈ segments.head?, (value.field? next).isSome := by
  cases segments with
  | nil => simp [reachAlong]
  | cons segment rest =>
    rw [reachAlong_cons]
    cases found : value.field? segment <;> simp [found]

end Value

namespace Suggestion

/-! ### Where a path is corrected -/

/-- Segments lead to a record that lacks the next one, and the first of its names that are close
to that one takes its place. -/
structure Corrects (value : Value) (segments corrected front : List Text) (segment key : Text)
    (rest : List Text) (fields : Fields Value) : Prop where
  divided : segments = front ++ segment :: rest
  walked : value.walk? front = some (.record fields)
  missing : fields.lookup segment = none
  closest : (close segment fields.names).head? = some key
  corrected_eq : corrected = front ++ key :: rest

/-- What is corrected is corrected so: the fields that are there are walked along. -/
theorem exists_corrects {value : Value} {segments corrected : List Text}
    (found : correct? value segments = some corrected) :
    ∃ front segment key rest fields,
      Corrects value segments corrected front segment key rest fields := by
  induction segments generalizing value corrected with
  | nil => contradiction
  | cons segment rest inductionHypothesis =>
    rw [correct?] at found
    cases value with
    | text content => contradiction
    | list items => contradiction
    | record fields =>
      simp only [Value.fields?, Option.bind_some] at found
      split at found
      · rename_i field present
        obtain ⟨later, onward, rfl⟩ := Option.map_eq_some_iff.1 found
        obtain ⟨front, missed, key, behind, inner, corrects⟩ := inductionHypothesis onward
        obtain ⟨rfl, walked, missing, closest, rfl⟩ := corrects
        refine ⟨segment :: front, missed, key, behind, inner, rfl, ?_, missing, closest, rfl⟩
        rw [Value.walk?_record_cons, present, Option.bind_some, walked]
      · rename_i missing
        obtain ⟨key, closest, rfl⟩ := Option.map_eq_some_iff.1 found
        exact ⟨[], segment, key, rest, fields, rfl, Value.walk?_nil _, missing, closest, rfl⟩

/-- Only one correction is made of segments. -/
theorem Corrects.correct?_eq {value : Value} {segments corrected front rest : List Text}
    {segment key : Text} {fields : Fields Value}
    (corrects : Corrects value segments corrected front segment key rest fields) :
    correct? value segments = some corrected := by
  obtain ⟨rfl, walked, missing, closest, rfl⟩ := corrects
  induction front generalizing value with
  | nil =>
    obtain rfl := Option.some.inj walked
    simp only [List.nil_append, correct?, Value.fields?, Option.bind_some, missing, closest,
      Option.map_some]
  | cons head later inductionHypothesis =>
    rw [Value.walk?_cons] at walked
    obtain ⟨field, present, onward⟩ := Option.bind_eq_some_iff.1 walked
    obtain ⟨outer, isRecord, found⟩ := Option.bind_eq_some_iff.1 present
    rw [List.cons_append, correct?, isRecord, Option.bind_some, found]
    simp only [inductionHypothesis onward, Option.map_some, List.cons_append]

theorem correct?_eq_some_iff {value : Value} {segments corrected : List Text} :
    correct? value segments = some corrected ↔
      ∃ front segment key rest fields,
        Corrects value segments corrected front segment key rest fields :=
  ⟨exists_corrects, fun ⟨_, _, _, _, _, corrects⟩ => corrects.correct?_eq⟩

/-- What is close is one of the candidates. -/
theorem mem_of_mem_close {name candidate : Text} {candidates : List Text}
    (member : candidate ∈ close name candidates) : candidate ∈ candidates := by
  obtain ⟨scored, listed, rfl⟩ := List.mem_map.1 ((close_perm name candidates).mem_iff.1 member)
  obtain ⟨source, given, isScored⟩ := List.mem_filterMap.1 listed
  rw [scored?, Option.ite_none_right_eq_some] at isScored
  obtain rfl := Option.some.inj isScored.2
  exact given

end Suggestion

/-! ### What a suggestion leads to -/

theorem Value.field?_record (fields : Fields Value) (name : Text) :
    (Value.record fields).field? name = fields.lookup name :=
  rfl

namespace Suggestion.Corrects

variable {root : Value} {path segment key : Text} {corrected front rest : List Text}
  {fields : Fields Value}

theorem mem_names (corrects : Corrects root (Path.segments path) corrected front segment key rest
    fields) : key ∈ fields.names :=
  mem_of_mem_close (List.mem_of_head? corrects.closest)

/-- The suggestion is read back with the segments of the name in the place of the missing one. -/
theorem segments_ofSegments (corrects : Corrects root (Path.segments path) corrected front segment
    key rest fields) :
    Path.segments (Path.ofSegments corrected) = front ++ (Path.segments key ++ rest) := by
  have names : ∀ name ∈ front ++ segment :: rest, Path.IsName name :=
    fun name member => Path.isName_of_mem_segments (corrects.divided ▸ member)
  have frontNames : ∀ name ∈ front, Path.IsName name :=
    fun name member => names name (List.mem_append_left _ member)
  have restNames : ∀ name ∈ rest, Path.IsName name :=
    fun name member => names name (List.mem_append_right _ (List.mem_cons_of_mem _ member))
  rw [corrects.corrected_eq, Path.segments_ofSegments, List.flatMap_append, List.flatMap_cons,
    Path.flatMap_segments_of_isName frontNames, Path.flatMap_segments_of_isName restNames]

theorem lookup_eq_none (corrects : Corrects root (Path.segments path) corrected front segment key
    rest fields) : root.lookup path = none := by
  rw [Value.lookup, corrects.divided, Value.walk?_append, corrects.walked, Option.bind_some,
    Value.walk?_record_cons, corrects.missing]
  rfl

/-- The path ends at the record that lacks its next segment. -/
theorem reach_eq (corrects : Corrects root (Path.segments path) corrected front segment key rest
    fields) : root.reach path = front.length := by
  have stops : (Value.record fields).reachAlong (segment :: rest) = 0 := by
    rw [Value.reachAlong_cons, Value.field?_record, corrects.missing]
    rfl
  rw [Value.reach, corrects.divided, Value.reachAlong_append corrects.walked, stops, Nat.add_zero]

/-- The suggestion goes on in the record. -/
theorem reach_ofSegments (corrects : Corrects root (Path.segments path) corrected front segment key
    rest fields) : root.reach (Path.ofSegments corrected) =
      root.reach path + (Value.record fields).reachAlong (Path.segments key ++ rest) := by
  rw [Value.reach, corrects.segments_ofSegments, Value.reachAlong_append corrects.walked,
    corrects.reach_eq]

/-- A name that a path can hold is found when nothing follows it. -/
theorem lookup_isSome_of_isName (corrects : Corrects root (Path.segments path) corrected front
    segment key [] fields) (isName : Path.IsName key) :
    (root.lookup (Path.ofSegments corrected)).isSome := by
  obtain ⟨field, present⟩ := Option.isSome_iff_exists.1 (Fields.mem_names_iff.1 corrects.mem_names)
  rw [Value.lookup, corrects.segments_ofSegments, isName.segments_eq, List.append_nil,
    Value.walk?_append, corrects.walked, Option.bind_some, Value.walk?_record_cons, present]
  rfl

end Suggestion.Corrects

/-- A path for which another one is suggested leads nowhere. The suggestion puts a name of the
record at which the path ends in the place of the segment that the record lacks, and is read back
with the segments of that name there. So it leads as far as the path, and further exactly where the
record has the segment that is read first there: always if a path can hold the name, and then it
leads to a value if only the last segment was missing. -/
theorem suggestion_reaches_further {root : Value} {path suggested : Text}
    (suggests : root.suggest? path = some suggested) :
    root.lookup path = none ∧
    ∃ corrected front segment key rest fields,
      Suggestion.Corrects root (Path.segments path) corrected front segment key rest fields ∧
      suggested = Path.ofSegments corrected ∧ key ∈ fields.names ∧
      Path.segments suggested = front ++ (Path.segments key ++ rest) ∧
      root.reach path = front.length ∧ root.reach path ≤ root.reach suggested ∧
      (root.reach path < root.reach suggested ↔
        ∃ next ∈ (Path.segments key ++ rest).head?, (fields.lookup next).isSome) ∧
      (Path.IsName key → root.reach path < root.reach suggested ∧
        (rest = [] → (root.lookup suggested).isSome)) := by
  obtain ⟨corrected, found, rfl⟩ := Option.map_eq_some_iff.1 suggests
  obtain ⟨front, segment, key, rest, fields, corrects⟩ :=
    Suggestion.correct?_eq_some_iff.1 found
  have further : root.reach path < root.reach (Path.ofSegments corrected) ↔
      ∃ next ∈ (Path.segments key ++ rest).head?, (fields.lookup next).isSome := by
    rw [corrects.reach_ofSegments]
    exact Nat.lt_add_right_iff_pos.trans Value.reachAlong_pos_iff
  refine ⟨corrects.lookup_eq_none, corrected, front, segment, key, rest, fields, corrects, rfl,
    corrects.mem_names, corrects.segments_ofSegments, corrects.reach_eq, ?_, further,
    fun isName => ⟨?_, ?_⟩⟩
  · rw [corrects.reach_ofSegments]
    exact Nat.le_add_right _ _
  · rw [further, isName.segments_eq]
    exact ⟨key, rfl, Fields.mem_names_iff.1 corrects.mem_names⟩
  · rintro rfl
    exact corrects.lookup_isSome_of_isName isName

/-- A misspelled last segment is corrected to a path that leads to a value. -/
theorem suggestion_reaches_field :
    let root : Value := .record [("user".toList, .record [("name".toList, .text ['x'])])]
    let path : Text := ".user..nmae".toList
    let suggested : Text := "user.name".toList
    root.suggest? path = some suggested ∧ root.lookup path = none ∧
      root.reach path < root.reach suggested ∧ (root.lookup suggested).isSome := by
  intro root path suggested
  have suggests : root.suggest? path = some suggested := by decide +kernel
  obtain ⟨absent, corrected, front, segment, key, rest, fields, corrects, -, listed, -, reach, -,
    -, further⟩ := suggestion_reaches_further suggests
  have single : front.length = 1 := reach.symm.trans (by decide +kernel)
  obtain ⟨head, rfl⟩ := List.length_eq_one_iff.1 single
  have divided : ["user".toList, "nmae".toList] = [head] ++ segment :: rest :=
    Eq.trans (by decide +kernel) corrects.divided
  obtain ⟨rfl, behind⟩ := List.cons.inj divided
  obtain ⟨rfl, rfl⟩ := List.cons.inj behind
  obtain rfl : [("name".toList, .text ['x'])] = fields :=
    Value.record.inj (Option.some.inj (Eq.trans (by decide +kernel) corrects.walked))
  obtain rfl := List.mem_singleton.1 listed
  obtain ⟨longer, leads⟩ := further (by decide +kernel)
  exact ⟨suggests, absent, longer, leads rfl⟩

/-- A name that holds a dot is suggested, and nothing is found along it. -/
theorem suggestion_of_dotted_name :
    let root : Value := .record [("a.b".toList, .text ['x'])]
    let path : Text := "ab".toList
    let suggested : Text := "a.b".toList
    root.suggest? path = some suggested ∧ root.reach path = 0 ∧ root.reach suggested = 0 ∧
      root.lookup suggested = none := by
  refine ⟨?_, ?_, ?_, ?_⟩ <;> decide +kernel

end Stencil
