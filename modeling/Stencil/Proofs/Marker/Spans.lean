/-
This file says where the spans of a scan lie. The spans of the blocks of one kind, and
those of the placeholders, are not empty, end within the text, begin and end between
two characters, and follow one another without an overlap. An opener that is left over
stands at its offset.
-/

import Stencil.Proofs.Marker.BlockScan
import Stencil.Proofs.Marker.PlaceholderScan

namespace Stencil

/-- A span lies in a text: it is not empty, and both ends lie between two characters. -/
structure Span.LiesIn (text : Text) (span : Span) : Prop where
  start_lt_stop : span.start < span.stop
  stop_le_size : span.stop ≤ text.size
  start_isBoundary : text.IsBoundary span.start
  stop_isBoundary : text.IsBoundary span.stop

/-- Spans lie in a text one behind the other. -/
structure Span.Ascending (text : Text) (spans : List Span) : Prop where
  liesIn : ∀ span ∈ spans, span.LiesIn text
  ascends : spans.Pairwise fun first second => first.stop ≤ second.start

theorem Span.Ascending.sublist {text : Text} {spans others : List Span}
    (ascending : Span.Ascending text spans) (part : others.Sublist spans) :
    Span.Ascending text others :=
  ⟨fun span member => ascending.liesIn span (part.subset member), ascending.ascends.sublist part⟩

/-- What stands at the two ends of a span shows that it lies in the text. -/
theorem Span.liesIn_of_standsAt {text front back : Text} {span : Span} {last : Nat}
    (starts : front.StandsAt text span.start) (stops : back.StandsAt text last)
    (stop_eq : span.stop = last + back.size) (start_lt_stop : span.start < span.stop) :
    span.LiesIn text := by
  refine ⟨start_lt_stop, ?_, starts.isBoundary, ?_⟩
  · rw [stop_eq]
    exact stops.le_size
  · rw [stop_eq]
    exact stops.isBoundary_end

/-! ### Blocks -/

namespace Block

variable {kind : BlockKind} {text : Text} {offset : Nat}

theorem ReadFrom.liesIn {block : Block} (read : block.ReadFrom kind text offset) :
    block.span.LiesIn text := by
  refine Span.liesIn_of_standsAt read.opener_first.2.1 read.closer_first.2.1 read.stop_eq ?_
  have braces : 0 < closeBraces.size := by decide
  have stop := read.stop_eq
  rw [bodyStart, targetStart] at stop
  omega

/-- The blocks that a scan finds from an offset on lie behind it, one behind the other. -/
theorem ascending_of_exactFrom {blocks : List Block} {unclosed : Option Unclosed}
    (complete : BlockScan.ExactFrom kind text offset ⟨blocks, unclosed⟩) :
    (∀ block ∈ blocks, offset ≤ block.span.start) ∧ Span.Ascending text (blocks.map span) := by
  induction blocks generalizing offset with
  | nil => exact ⟨by simp, by simp, List.Pairwise.nil⟩
  | cons block later inductionHypothesis =>
    obtain ⟨read, laterComplete⟩ := BlockScan.exactFrom_cons_iff.1 complete
    obtain ⟨behind, ascending⟩ := inductionHypothesis laterComplete
    have forward := read.liesIn.start_lt_stop
    have start := read.opener_first.1
    refine ⟨?_, ?_, ?_⟩
    · rintro other (_ | ⟨_, member⟩)
      · exact start
      · have above := behind other member
        omega
    · rintro _ (_ | ⟨_, member⟩)
      · exact read.liesIn
      · exact ascending.liesIn _ member
    · refine List.pairwise_cons.2 ⟨fun span member => ?_, ascending.ascends⟩
      obtain ⟨other, otherMember, rfl⟩ := List.mem_map.1 member
      exact behind other otherMember

theorem ascending_scan (kind : BlockKind) (text : Text) :
    Span.Ascending text ((scan kind text).blocks.map span) :=
  (ascending_of_exactFrom (exactFrom_scan kind text)).2

theorem liesIn_of_mem_scan {block : Block} (member : block ∈ (scan kind text).blocks) :
    block.span.LiesIn text :=
  (ascending_scan kind text).liesIn _ (List.mem_map_of_mem member)

/-- At the offset of an opener that is left over, an opener of the kind stands. -/
theorem standsAt_of_unclosed {unclosed : Unclosed}
    (found : (scan kind text).unclosed = some unclosed) :
    kind.opener.StandsAt text unclosed.offset :=
  ((exactFrom_scan kind text).unclosed_first unclosed found).2.2.1

end Block

/-! ### Placeholders -/

namespace Placeholder

theorem StandsIn.liesIn {text : Text} {placeholder : Placeholder}
    (stands : placeholder.StandsIn text) : placeholder.span.LiesIn text := by
  have forward := stands.start_lt_stop
  obtain ⟨before, content, rest, rfl, -, -, -, spanned⟩ := stands
  rw [spanned] at forward ⊢
  have standsAt := Text.standsAt_size_append before (written content) rest
  exact Span.liesIn_of_standsAt standsAt standsAt rfl forward

theorem ascending_scan (text : Text) : Span.Ascending text ((scan text).map span) := by
  have greedy := greedyFrom_scan text
  refine ⟨fun span member => ?_, ?_⟩
  · obtain ⟨placeholder, found, rfl⟩ := List.mem_map.1 member
    exact (greedy.stands placeholder found).1.liesIn
  · exact List.pairwise_map.2 (greedy.ascends.imp fun both => both.2)

theorem liesIn_of_mem_scan {text : Text} {placeholder : Placeholder}
    (member : placeholder ∈ scan text) : placeholder.span.LiesIn text :=
  (ascending_scan text).liesIn _ (List.mem_map_of_mem member)

end Placeholder

end Stencil
