/-
This file says what the scan for placeholders finds. `StandsIn` says by the grammar
alone where a placeholder may be read. The scan takes such places greedily from the
left: what it finds stands in the text, the spans ascend and do not overlap, and a
place that it passes over begins within a placeholder that it found. Going on one
character later where nothing can be read therefore loses no placeholder and finds
none twice, and no other list of placeholders has these properties.
-/

import Stencil.Marker.Placeholders
import Stencil.Proofs.Text.Place
import Stencil.Proofs.Text.Skipping

namespace Stencil

namespace Placeholder

/-! ### Where a placeholder stands -/

/-- A path names no tag and holds none of the five characters that end a line. -/
structure IsPath (path : Text) : Prop where
  noTag : path.head? ≠ some '#'
  oneLine : ∀ character ∈ path, character ∉ ['\n', '\r', '\u0085', '\u2028', '\u2029']

/-- The test of a path decides whether it is one. -/
theorem isPath_iff {path : Text} : isPath path ↔ IsPath path := by
  have breaks : ∀ character, isLineBreak character = false ↔
      character ∉ ['\n', '\r', '\u0085', '\u2028', '\u2029'] := by
    intro character
    simp [isLineBreak, and_assoc]
  simp only [isPath, Bool.and_eq_true, decide_eq_true_eq, Bool.not_eq_true', List.any_eq_false,
    Bool.not_eq_true, breaks]
  exact ⟨fun ⟨noTag, oneLine⟩ => ⟨noTag, oneLine⟩, fun ⟨noTag, oneLine⟩ => ⟨noTag, oneLine⟩⟩

/-- A placeholder stands in a text: its span is written as one, up to the first closing braces, and
what these enclose is its path with blanks around it. -/
def StandsIn (text : Text) (placeholder : Placeholder) : Prop :=
  ∃ before content rest, text = before ++ written content ++ rest ∧
    Text.FirstAt closeBraces (content ++ closeBraces ++ rest) content rest ∧
    content.TrimsTo placeholder.path ∧ IsPath placeholder.path ∧
    placeholder.span = ⟨before.size, before.size + (written content).size⟩

/-- A placeholder stands where one can be read at the front of the rest of the text. -/
theorem standsIn_iff_read? {text : Text} {placeholder : Placeholder} :
    placeholder.StandsIn text ↔ ∃ before tail content rest, text = before ++ tail ∧
      read? tail = some (content, rest) ∧
      placeholder = ⟨content.trim, ⟨before.size, before.size + (written content).size⟩⟩ := by
  constructor
  · rintro ⟨before, content, rest, rfl, first, trims, path, spanned⟩
    have trimmed := Text.trimsTo_iff.1 trims
    refine ⟨before, written content ++ rest, content, rest, List.append_assoc .., ?_, ?_⟩
    · refine read?_eq_some_iff.2 ⟨content ++ closeBraces ++ rest, by simp [written],
        Text.cut?_eq_some_iff.2 first, ?_⟩
      rw [trimmed]
      exact isPath_iff.2 path
    · rw [trimmed, ← spanned]
  · rintro ⟨before, tail, content, rest, rfl, read, rfl⟩
    obtain ⟨inside, rfl, found, path⟩ := read?_eq_some_iff.1 read
    refine ⟨before, content, rest, ?_, ?_, Text.trimsTo_iff.2 rfl, isPath_iff.1 path, rfl⟩
    · rw [Text.eq_append_of_cut? found]
      simp [written]
    · rw [← Text.eq_append_of_cut? found]
      exact Text.cut?_eq_some_iff.1 found

theorem size_written (content : Text) : (written content).size = content.size + 4 := by
  have braces : openBraces.size = 2 ∧ closeBraces.size = 2 := by decide
  rw [written, Text.size_append, Text.size_append]
  omega

theorem StandsIn.start_lt_stop {text : Text} {placeholder : Placeholder}
    (stands : placeholder.StandsIn text) : placeholder.span.start < placeholder.span.stop := by
  obtain ⟨before, content, rest, -, -, -, -, spanned⟩ := stands
  simp only [spanned, size_written]
  omega

/-- What stands behind a front can be read there or stands behind its first character. -/
theorem StandsIn.eq_or_lt {front rest : Text} {character : Char} {placeholder : Placeholder}
    (stands : placeholder.StandsIn (front ++ character :: rest))
    (behind : front.size ≤ placeholder.span.start) :
    (∃ content after, read? (character :: rest) = some (content, after) ∧
      placeholder = ⟨content.trim, ⟨front.size, front.size + (written content).size⟩⟩) ∨
      front.size + character.utf8Size ≤ placeholder.span.start := by
  obtain ⟨before, tail, content, after, whole, read, rfl⟩ := standsIn_iff_read?.1 stands
  obtain ⟨middle, rfl, divided⟩ := Text.exists_eq_append_of_size_le whole behind
  cases middle with
  | nil =>
    obtain rfl : character :: rest = tail := divided
    rw [List.append_nil]
    exact Or.inl ⟨content, after, read, rfl⟩
  | cons head middle =>
    obtain ⟨rfl, -⟩ := List.cons.inj divided
    right
    simp only [Text.size_append, Text.size_cons]
    omega

/-- At one offset only one placeholder can stand. -/
theorem StandsIn.eq_of_start_eq {text : Text} {first second : Placeholder}
    (firstStands : first.StandsIn text) (secondStands : second.StandsIn text)
    (same : first.span.start = second.span.start) : first = second := by
  obtain ⟨before, tail, content, rest, rfl, read, rfl⟩ := standsIn_iff_read?.1 firstStands
  obtain ⟨before', tail', content', rest', whole, read', rfl⟩ := standsIn_iff_read?.1 secondStands
  obtain ⟨rfl, rfl⟩ := Text.append_inj_of_size_eq whole same
  rw [read] at read'
  obtain ⟨rfl, rfl⟩ : content = content' ∧ rest = rest' := by simpa using read'
  rfl

/-! ### Taking placeholders from the left -/

/-- Placeholders are taken greedily from an offset on: they stand in the text, they ascend
without an overlap, and one that is passed over begins within one that is taken. -/
structure GreedyFrom (text : Text) (offset : Nat) (taken : List Placeholder) : Prop where
  stands : ∀ placeholder ∈ taken,
    placeholder.StandsIn text ∧ offset ≤ placeholder.span.start
  ascends : taken.Pairwise fun first second =>
    first.span.start < second.span.start ∧ first.span.stop ≤ second.span.start
  covers : ∀ placeholder, placeholder.StandsIn text → offset ≤ placeholder.span.start →
    placeholder ∉ taken → ∃ other ∈ taken,
      other.span.start < placeholder.span.start ∧ placeholder.span.start < other.span.stop

variable {text : Text} {offset : Nat} {taken : List Placeholder}

/-- Where no placeholder begins, the search goes on behind. -/
theorem GreedyFrom.skip {next : Nat} (greedy : GreedyFrom text next taken) (later : offset ≤ next)
    (absent : ∀ placeholder : Placeholder, placeholder.StandsIn text →
      offset ≤ placeholder.span.start → next ≤ placeholder.span.start) :
    GreedyFrom text offset taken := by
  refine ⟨fun placeholder member => ?_, greedy.ascends, fun placeholder stands behind fresh => ?_⟩
  · obtain ⟨stands, behind⟩ := greedy.stands placeholder member
    exact ⟨stands, Nat.le_trans later behind⟩
  · exact greedy.covers placeholder stands (absent placeholder stands behind) fresh

/-- A placeholder is taken where it stands, and the search goes on behind it. -/
theorem GreedyFrom.take {head : Placeholder} (greedy : GreedyFrom text head.span.stop taken)
    (headStands : head.StandsIn text) : GreedyFrom text head.span.start (head :: taken) := by
  have forward := headStands.start_lt_stop
  refine ⟨?_, ?_, fun placeholder stands behind fresh => ?_⟩
  · rintro placeholder (_ | ⟨_, member⟩)
    · exact ⟨headStands, Nat.le_refl _⟩
    · obtain ⟨stands, behind⟩ := greedy.stands placeholder member
      exact ⟨stands, by omega⟩
  · refine List.pairwise_cons.2 ⟨fun placeholder member => ?_, greedy.ascends⟩
    obtain ⟨-, behind⟩ := greedy.stands placeholder member
    exact ⟨by omega, behind⟩
  · obtain ⟨differ, restFresh⟩ := not_or.1 (mt List.mem_cons.2 fresh)
    by_cases within : placeholder.span.start < head.span.stop
    · refine ⟨head, List.mem_cons_self, ?_, within⟩
      have apart := mt (stands.eq_of_start_eq headStands) differ
      omega
    · obtain ⟨other, member, covers⟩ := greedy.covers placeholder stands (by omega) restFresh
      exact ⟨other, List.mem_cons_of_mem _ member, covers⟩

/-- What is taken behind the first placeholder is taken greedily from where it stops. -/
theorem GreedyFrom.tail {head : Placeholder} (greedy : GreedyFrom text offset (head :: taken)) :
    GreedyFrom text head.span.stop taken := by
  obtain ⟨headStands, headBehind⟩ := greedy.stands head List.mem_cons_self
  obtain ⟨above, ascends⟩ := List.pairwise_cons.1 greedy.ascends
  have forward := headStands.start_lt_stop
  refine ⟨fun placeholder member => ?_, ascends, fun placeholder stands behind fresh => ?_⟩
  · obtain ⟨stands, -⟩ := greedy.stands placeholder (List.mem_cons_of_mem _ member)
    exact ⟨stands, (above placeholder member).2⟩
  · have differ : placeholder ≠ head := by
      rintro rfl
      omega
    obtain ⟨other, member, before, within⟩ := greedy.covers placeholder stands (by omega)
      (mt List.mem_cons.1 (not_or.2 ⟨differ, fresh⟩))
    rcases List.mem_cons.1 member with rfl | member
    · omega
    · exact ⟨other, member, before, within⟩

/-- Nothing that stands behind the offset begins before the first placeholder taken. -/
theorem GreedyFrom.head_le {head placeholder : Placeholder}
    (greedy : GreedyFrom text offset (head :: taken)) (stands : placeholder.StandsIn text)
    (behind : offset ≤ placeholder.span.start) : head.span.start ≤ placeholder.span.start := by
  obtain ⟨above, -⟩ := List.pairwise_cons.1 greedy.ascends
  have least : ∀ other ∈ head :: taken, head.span.start ≤ other.span.start := by
    rintro other (_ | ⟨_, member⟩)
    · exact Nat.le_refl _
    · exact Nat.le_of_lt (above other member).1
  by_cases member : placeholder ∈ head :: taken
  · exact least placeholder member
  · obtain ⟨other, otherMember, before, -⟩ := greedy.covers placeholder stands behind member
    have low := least other otherMember
    omega

/-- Taking greedily leaves no choice. -/
theorem GreedyFrom.unique {others : List Placeholder} (greedy : GreedyFrom text offset taken)
    (otherGreedy : GreedyFrom text offset others) : taken = others := by
  induction taken generalizing offset others with
  | nil =>
    cases others with
    | nil => rfl
    | cons other rest =>
      obtain ⟨stands, behind⟩ := otherGreedy.stands other List.mem_cons_self
      obtain ⟨_, member, -⟩ := greedy.covers other stands behind List.not_mem_nil
      exact absurd member List.not_mem_nil
  | cons head rest inductionHypothesis =>
    obtain ⟨headStands, headBehind⟩ := greedy.stands head List.mem_cons_self
    cases others with
    | nil =>
      obtain ⟨_, member, -⟩ := otherGreedy.covers head headStands headBehind List.not_mem_nil
      exact absurd member List.not_mem_nil
    | cons other otherRest =>
      obtain ⟨otherStands, otherBehind⟩ := otherGreedy.stands other List.mem_cons_self
      have low := greedy.head_le otherStands otherBehind
      have high := otherGreedy.head_le headStands headBehind
      obtain rfl : head = other := headStands.eq_of_start_eq otherStands (by omega)
      rw [inductionHypothesis greedy.tail otherGreedy.tail]

/-! ### The scan -/

/-- Where the opening braces do not stand there is no placeholder. -/
theorem read?_eq_none {text : Text} (absent : ¬ openBraces <+: text) : read? text = none := by
  rw [read?, Text.isPrefixOf?_eq_none_iff.2 absent, Option.bind_none]

/-- The scan passes over a text in which no opening braces begin. -/
theorem scanFrom_append {before after : Text} (skips : Text.Skips openBraces before after)
    (offset : Nat) :
    scanFrom offset (before ++ after) = scanFrom (offset + before.size) after := by
  induction before generalizing offset with
  | nil => rfl
  | cons character rest inductionHypothesis =>
    obtain ⟨absent, restSkips⟩ := skips
    rw [List.cons_append, scanFrom_of_not_read (read?_eq_none absent),
      inductionHypothesis restSkips, Text.size_cons, Nat.add_assoc]

/-- The scan of the rest of a text takes greedily behind the front. -/
theorem greedyFrom_scanFrom (front rest : Text) :
    GreedyFrom (front ++ rest) front.size (scanFrom front.size rest) := by
  cases rest with
  | nil =>
    rw [scanFrom_nil]
    refine ⟨by simp, List.Pairwise.nil, fun placeholder stands behind => ?_⟩
    -- Behind the whole text there is no room for the braces of a placeholder.
    obtain ⟨before, content, after, whole, -, -, -, spanned⟩ := stands
    have sizes := congrArg Text.size whole
    simp only [spanned, size_written, Text.size_append, Text.size_nil] at sizes behind
    omega
  | cons character rest =>
    cases read : read? (character :: rest) with
    | none =>
      have recursive := greedyFrom_scanFrom (front ++ [character]) rest
      rw [List.append_assoc, List.singleton_append, Text.size_append, Text.size_cons,
        Text.size_nil, Nat.add_zero] at recursive
      rw [scanFrom_of_not_read read]
      refine recursive.skip (Nat.le_add_right _ _) fun placeholder stands behind => ?_
      rcases stands.eq_or_lt behind with ⟨content, after, found, -⟩ | beyond
      · rw [read] at found
        simp at found
      · exact beyond
    | some parts =>
      obtain ⟨content, after⟩ := parts
      have whole : front ++ character :: rest = front ++ written content ++ after := by
        rw [eq_append_of_read? read, List.append_assoc]
      have recursive := greedyFrom_scanFrom (front ++ written content) after
      rw [← whole, Text.size_append] at recursive
      rw [scanFrom_of_read? read]
      exact recursive.take (standsIn_iff_read?.2 ⟨front, _, content, after, rfl, read, rfl⟩)
termination_by rest.length
decreasing_by
  · simp
  · exact length_lt_of_read? read

theorem greedyFrom_scan (text : Text) : GreedyFrom text 0 (scan text) :=
  greedyFrom_scanFrom [] text

/-- The scan of a text takes its placeholders greedily from the left. -/
theorem scan_eq_iff_greedyFrom {text : Text} {taken : List Placeholder} :
    scan text = taken ↔ GreedyFrom text 0 taken := by
  constructor
  · rintro rfl
    exact greedyFrom_scan text
  · intro greedy
    exact (greedyFrom_scan text).unique greedy

end Placeholder

end Stencil
