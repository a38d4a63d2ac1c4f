/-
This file suggests what a path that leads nowhere may have meant. Names are
suggested when they are at most two edits away, the closest first and among
equally close ones in the order of their characters, so the result does not depend
on the order in which the names were given. A path is corrected at the first
record that lacks the next segment, and only there.
-/

import Stencil.Text.EditDistance
import Stencil.Value.Basic

namespace Stencil

namespace Suggestion

/-- The most edits that a suggestion may be away. -/
def maximalDistance : Nat := 2

/-- A candidate with its distance from a name, if it may be suggested for that name. -/
def scored? (name candidate : Text) : Option (Nat × Text) :=
  let distance := Text.editDistance name candidate
  if distance ≤ maximalDistance ∧ candidate ≠ name then some (distance, candidate) else none

/-- Whether one scored candidate is suggested no later than another. -/
def precedes (first second : Nat × Text) : Bool :=
  first.1 < second.1 || (first.1 = second.1 && !decide (second.2 < first.2))

/-- The candidates close to a name, the closest first. -/
def close (name : Text) (candidates : List Text) : List Text :=
  ((candidates.filterMap (scored? name)).mergeSort precedes).map Prod.snd

/-- Every order of the candidates gives the same candidates, each as often. -/
theorem close_perm (name : Text) (candidates : List Text) : (close name candidates).Perm
    ((candidates.filterMap (scored? name)).map Prod.snd) :=
  (List.mergeSort_perm _ _).map Prod.snd

/-- The segments with the first one that leads nowhere corrected. -/
def correct? (value : Value) : List Text → Option (List Text)
  | [] => none
  | segment :: rest =>
    value.fields?.bind fun fields =>
      match fields.lookup segment with
      | some field => (correct? field rest).map (segment :: ·)
      | none => (close segment fields.names).head?.map (· :: rest)

end Suggestion

/-- The path that a path which leads nowhere may have meant. -/
def Value.suggest? (root : Value) (path : Text) : Option Text :=
  (Suggestion.correct? root (Path.segments path)).map Path.ofSegments

end Stencil
