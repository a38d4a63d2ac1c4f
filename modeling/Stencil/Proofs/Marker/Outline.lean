/-
This file says what an outline lists. It lists every block that the two scans find and
every placeholder that begins outside these blocks, each once, in the order in which they
begin: no two of them begin at one offset, since the scans of one sort ascend, openers of
different kinds never stand at one place, and a placeholder that begins with a block is
not listed. A placeholder that is left out lies within a block. The test looks only at
where a placeholder begins, though: one that begins in front of a block and ends with its
opening tag is listed, and the block takes its end away. A check prints a row for every
part that is listed, with the place at which the part begins.
-/

import Mathlib.Data.List.Forall2
import Stencil.Command.Check
import Stencil.Proofs.Marker.Crossing
import Stencil.Proofs.Text.Position

namespace Stencil

/-- The block of a kind that a part is, if it is one. -/
def Marker.blockOf? (kind : BlockKind) : Marker → Option Block
  | .block inner => if inner.kind = kind then some inner else none
  | .placeholder _ => none

/-- The placeholder that a part is, if it is one. -/
def Marker.placeholder? : Marker → Option Placeholder
  | .block _ => none
  | .placeholder inner => some inner

/-- What is sorted by numbers that all differ ascends strictly. -/
theorem pairwise_lt_mergeSort {α : Type} {key : α → Nat} {items : List α}
    (differ : items.Pairwise fun first second => key first ≠ key second) :
    (items.mergeSort fun first second => key first ≤ key second).Pairwise fun first second =>
      key first < key second := by
  let order : α → α → Bool := fun first second => key first ≤ key second
  have transitive : ∀ first second third, order first second → order second third →
      order first third := by
    intro first second third before behind
    simp only [order, decide_eq_true_eq] at *
    omega
  have total : ∀ first second, order first second || order second first := by
    intro first second
    simp only [order, Bool.or_eq_true, decide_eq_true_eq]
    omega
  have sorted := List.pairwise_mergeSort transitive total items
  have apart := ((List.mergeSort_perm items order).pairwise_iff fun differs =>
    Ne.symm differs).2 differ
  refine (sorted.and apart).imp fun both => ?_
  have ordered := of_decide_eq_true both.1
  have differs := both.2
  omega

namespace Outline

variable {text : Text}

/-! ### What is listed -/

/-- A placeholder begins outside all blocks of a text. -/
def BeginsOutside (text : Text) (placeholder : Placeholder) : Prop :=
  ∀ kind, ∀ block ∈ (Block.scan kind text).blocks,
    ¬ block.span.contains placeholder.span.start

theorem mem_blocks_iff {block : Block} :
    block ∈ blocks text ↔ ∃ kind, block ∈ (Block.scan kind text).blocks := by
  rw [blocks, List.mem_append]
  constructor
  · rintro (ofEach | ofLoop)
    · exact ⟨.each, ofEach⟩
    · exact ⟨.loop, ofLoop⟩
  · rintro ⟨_ | _, member⟩
    · exact Or.inl member
    · exact Or.inr member

theorem mem_freePlaceholders_iff {placeholder : Placeholder} :
    placeholder ∈ freePlaceholders text ↔
      placeholder ∈ Placeholder.scan text ∧ BeginsOutside text placeholder := by
  simp only [freePlaceholders, List.mem_filter, Bool.not_eq_true', List.any_eq_false,
    mem_blocks_iff, BeginsOutside]
  constructor
  · rintro ⟨found, outside⟩
    exact ⟨found, fun kind block member => outside block ⟨kind, member⟩⟩
  · rintro ⟨found, outside⟩
    exact ⟨found, fun block ⟨kind, member⟩ => outside kind block member⟩

theorem block_mem_markers_iff {block : Block} :
    .block block ∈ (ofText text).markers ↔ ∃ kind, block ∈ (Block.scan kind text).blocks := by
  rw [(markers_perm text).mem_iff, parts, ← mem_blocks_iff]
  simp

theorem placeholder_mem_markers_iff {placeholder : Placeholder} :
    .placeholder placeholder ∈ (ofText text).markers ↔
      placeholder ∈ Placeholder.scan text ∧ BeginsOutside text placeholder := by
  rw [(markers_perm text).mem_iff, parts, ← mem_freePlaceholders_iff]
  simp

/-! ### Listed placeholders and blocks -/

/-- A listed placeholder is apart from a listed block, or it begins in front of the block and ends
with its opening tag. One that is apart from all listed blocks stands where it is written, and
no pass over the blocks of the text touches it. -/
theorem listed_placeholder_apart_or_over_tag {placeholder : Placeholder}
    (listed : .placeholder placeholder ∈ (ofText text).markers) :
    (∀ block, .block block ∈ (ofText text).markers →
      placeholder.span.Apart block.span ∨ placeholder.RunsOverTag block) ∧
    ((∀ block, .block block ∈ (ofText text).markers → placeholder.span.Apart block.span) →
      ∃ content : Text, content.trim = placeholder.path ∧
        (Placeholder.written content).StandsAt text placeholder.span.start ∧
        ∀ (kind : BlockKind) (root : Value),
          Placeholder.written content <:+: Render.expand kind root text) := by
  obtain ⟨found, outside⟩ := placeholder_mem_markers_iff.1 listed
  have stands := (Placeholder.greedyFrom_scan text).stands placeholder found |>.1
  constructor
  · intro block blockListed
    obtain ⟨kind, member⟩ := block_mem_markers_iff.1 blockListed
    obtain ⟨offset, read⟩ := Block.exists_readFrom_of_mem_scan member
    have notInside := mt Span.contains_iff.2 (outside kind block member)
    rcases Nat.lt_or_ge placeholder.span.start block.span.start with before | behind
    · rcases stands.le_start_or_runsOverTag read before with apart | overTag
      · exact Or.inl (Or.inl apart)
      · exact Or.inr overTag
    · exact Or.inl (Or.inr (by omega))
  · intro apart
    obtain ⟨before, content, rest, whole, -, trims, -, spanned⟩ := stands
    refine ⟨content, Text.trimsTo_iff.1 trims, ⟨before, rest, whole, by rw [spanned]⟩,
      fun kind root => ?_⟩
    rw [List.append_assoc] at whole
    rw [whole]
    refine Render.infix_expand_of_apart root fun block member => ?_
    rw [← whole] at member
    rcases apart block (block_mem_markers_iff.2 ⟨kind, member⟩) with before | behind
    · rw [spanned] at before
      exact Or.inr before
    · rw [spanned] at behind
      exact Or.inl behind

/-- A placeholder in front of a block with one of its own. -/
theorem listed_placeholder_apart_or_over_tag_title :
    let title : Placeholder := ⟨['t'], ⟨0, 7⟩⟩
    let text := Placeholder.written " t ".toList ++
      Block.written .each ['r'] (Placeholder.written ['x'])
    .placeholder title ∈ (ofText text).markers ∧
      (∀ block, .block block ∈ (ofText text).markers → title.span.Apart block.span) ∧
      ∃ content : Text, content.trim = ['t'] ∧
        (Placeholder.written content).StandsAt text 0 ∧
        ∀ kind root, Placeholder.written content <:+: Render.expand kind root text := by
  intro title text
  have listed : .placeholder title ∈ (ofText text).markers :=
    (markers_perm text).mem_iff.2 (by decide +kernel)
  obtain ⟨meets, kept⟩ := listed_placeholder_apart_or_over_tag listed
  have apart : ∀ block, .block block ∈ (ofText text).markers →
      title.span.Apart block.span := by
    intro block member
    rcases meets block member with apart | overTag
    · exact apart
    · exact absurd overTag.brace_mem_path (by decide)
  exact ⟨listed, apart, kept apart⟩

/-- Opening braces in front of a block make a placeholder out of its opening tag, which is listed
beside the block. The pass over the block takes it away. -/
theorem listed_placeholder_over_tag :
    let placeholder : Placeholder := ⟨"\x7b\x7b#each r".toList, ⟨0, 14⟩⟩
    let block : Block := ⟨.each, ['r'], ['x'], ⟨3, 28⟩⟩
    let text := openBraces ++ [' '] ++ Block.written .each ['r'] ['x']
    .placeholder placeholder ∈ (ofText text).markers ∧ .block block ∈ (ofText text).markers ∧
      ¬ placeholder.span.Apart block.span ∧
      ¬ closeBraces <:+: Render.expand .each (.record []) text := by
  intro placeholder block text
  refine ⟨(markers_perm text).mem_iff.2 (by decide +kernel),
    (markers_perm text).mem_iff.2 (by decide +kernel), ?_, by decide +kernel⟩
  rintro (before | behind)
  · exact absurd before (by decide)
  · exact absurd behind (by decide)

/-! ### The order of the parts -/

/-- Openers of different kinds do not stand at one place. -/
theorem opener_eq_of_standsAt {kind other : BlockKind} {offset : Nat}
    (stands : kind.opener.StandsAt text offset) (otherStands : other.opener.StandsAt text offset) :
    kind = other := by
  have compared := stands.prefix_or_prefix otherStands
  revert compared
  cases kind <;> cases other <;> decide

theorem start_standsAt_of_mem_scan {kind : BlockKind} {block : Block}
    (member : block ∈ (Block.scan kind text).blocks) :
    kind.opener.StandsAt text block.span.start := by
  obtain ⟨offset, read⟩ := Block.exists_readFrom_of_mem_scan member
  exact read.opener_first.2.1

/-- The blocks that a scan finds begin one behind the other. -/
theorem pairwise_start_scan (kind : BlockKind) (text : Text) :
    (Block.scan kind text).blocks.Pairwise fun first second =>
      first.span.start < second.span.start := by
  have ascending := Block.ascending_scan kind text
  refine (List.pairwise_map.1 ascending.ascends).imp_of_mem fun {first second} member _ apart => ?_
  have forward := (Block.liesIn_of_mem_scan member).start_lt_stop
  omega

/-- No two parts of an outline begin at one offset. -/
theorem pairwise_start_ne_parts (text : Text) :
    (parts text).Pairwise fun first second => first.span.start ≠ second.span.start := by
  have blocksApart : (blocks text).Pairwise fun first second =>
      first.span.start ≠ second.span.start := by
    refine List.pairwise_append.2 ⟨?_, ?_, fun first member second member' same => ?_⟩
    · exact (pairwise_start_scan .each text).imp fun ordered => Nat.ne_of_lt ordered
    · exact (pairwise_start_scan .loop text).imp fun ordered => Nat.ne_of_lt ordered
    · have stands := start_standsAt_of_mem_scan member
      rw [same] at stands
      exact absurd (opener_eq_of_standsAt stands (start_standsAt_of_mem_scan member'))
        (by decide)
  have freeApart : (freePlaceholders text).Pairwise fun first second =>
      first.span.start ≠ second.span.start :=
    ((Placeholder.greedyFrom_scan text).ascends.filter _).imp fun ordered =>
      Nat.ne_of_lt ordered.1
  refine List.pairwise_append.2 ⟨List.pairwise_map.2 blocksApart, List.pairwise_map.2 freeApart,
    fun first member second member' same => ?_⟩
  obtain ⟨block, blockMember, rfl⟩ := List.mem_map.1 member
  obtain ⟨placeholder, placeholderMember, rfl⟩ := List.mem_map.1 member'
  obtain ⟨kind, found⟩ := mem_blocks_iff.1 blockMember
  -- A placeholder that begins with a block begins within it, and is not listed.
  refine (mem_freePlaceholders_iff.1 placeholderMember).2 kind block found ?_
  have start : block.span.start = placeholder.span.start := same
  rw [← start]
  exact Span.contains_iff.2 ⟨Nat.le_refl _, (Block.liesIn_of_mem_scan found).start_lt_stop⟩

theorem pairwise_start_markers (text : Text) :
    (ofText text).markers.Pairwise fun first second => first.span.start < second.span.start :=
  pairwise_lt_mergeSort (pairwise_start_ne_parts text)

theorem pairwise_offset_unclosed (text : Text) :
    (ofText text).unclosed.Pairwise fun first second => first.offset < second.offset := by
  refine pairwise_lt_mergeSort (List.pairwise_append.2 ⟨?_, ?_, ?_⟩)
  · cases (Block.scan .each text).unclosed <;> simp
  · cases (Block.scan .loop text).unclosed <;> simp
  · intro first member second member' same
    have stands := Block.standsAt_of_unclosed (Option.mem_toList.1 member)
    rw [same] at stands
    exact absurd (opener_eq_of_standsAt stands
      (Block.standsAt_of_unclosed (Option.mem_toList.1 member'))) (by decide)

/-! ### The parts of one sort -/

/-- The parts of one sort, taken from an outline, are those of the scan in their order. -/
theorem filterMap_markers_eq {α : Type} {sort? : Marker → Option α} {found : List α}
    (start : α → Nat) (listed : (parts text).filterMap sort? = found)
    (starts : ∀ marker inner, sort? marker = some inner → start inner = marker.span.start)
    (ascends : found.Pairwise fun first second => start first < start second) :
    (ofText text).markers.filterMap sort? = found := by
  have sorted : ((ofText text).markers.filterMap sort?).Pairwise fun first second =>
      start first < start second := by
    refine (pairwise_start_markers text).filterMap sort? fun first second ordered => ?_
    intro inner isInner inner' isInner'
    rwa [starts first inner isInner, starts second inner' isInner']
  have perm := (markers_perm text).filterMap sort?
  rw [listed] at perm
  refine perm.eq_of_pairwise (fun first second _ _ before behind => ?_) sorted ascends
  exact absurd before (Nat.lt_asymm behind)

theorem filterMap_blockOf?_scan (kind other : BlockKind) (text : Text) :
    ((Block.scan other text).blocks.map Marker.block).filterMap (Marker.blockOf? kind) =
      if other = kind then (Block.scan other text).blocks else [] := by
  rw [List.filterMap_map]
  split
  · rename_i same
    refine (List.filterMap_congr fun block member => ?_).trans List.filterMap_some
    exact if_pos ((Block.kind_of_mem_scan member).trans same)
  · rename_i differ
    refine List.filterMap_eq_nil_iff.2 fun block member => if_neg ?_
    rwa [Block.kind_of_mem_scan member]

theorem filterMap_blockOf?_markers (kind : BlockKind) (text : Text) :
    (ofText text).markers.filterMap (Marker.blockOf? kind) = (Block.scan kind text).blocks := by
  refine filterMap_markers_eq (fun block => block.span.start) ?_ ?_
    (pairwise_start_scan kind text)
  · have noBlock : ((freePlaceholders text).map Marker.placeholder).filterMap
        (Marker.blockOf? kind) = [] := by
      rw [List.filterMap_map]
      exact List.filterMap_eq_nil_iff.2 fun _ _ => rfl
    rw [parts, blocks, List.map_append, List.filterMap_append, List.filterMap_append, noBlock,
      filterMap_blockOf?_scan, filterMap_blockOf?_scan]
    cases kind <;> simp
  · intro marker block isBlock
    cases marker with
    | block inner =>
      obtain ⟨-, rfl⟩ : inner.kind = kind ∧ inner = block := by
        simpa [Marker.blockOf?] using isBlock
      rfl
    | placeholder inner => contradiction

theorem filterMap_placeholder?_markers (text : Text) :
    (ofText text).markers.filterMap Marker.placeholder? = freePlaceholders text := by
  refine filterMap_markers_eq (fun placeholder => placeholder.span.start) ?_ ?_ ?_
  · have noPlaceholder : ((blocks text).map Marker.block).filterMap Marker.placeholder? = [] := by
      rw [List.filterMap_map]
      exact List.filterMap_eq_nil_iff.2 fun _ _ => rfl
    rw [parts, List.filterMap_append, noPlaceholder, List.nil_append, List.filterMap_map]
    exact List.filterMap_some
  · intro marker placeholder isPlaceholder
    cases marker with
    | block inner => contradiction
    | placeholder inner =>
      obtain rfl := Option.some.inj isPlaceholder
      rfl
  · exact ((Placeholder.greedyFrom_scan text).ascends.filter _).imp fun ordered => ordered.1

/-- A placeholder that is left out lies within a listed block. -/
theorem exists_within_of_not_listed {placeholder : Placeholder}
    (found : placeholder ∈ Placeholder.scan text)
    (leftOut : .placeholder placeholder ∉ (ofText text).markers) :
    ∃ block, .block block ∈ (ofText text).markers ∧ placeholder.span.Within block.span := by
  have stands := (Placeholder.greedyFrom_scan text).stands placeholder found |>.1
  by_cases inside : ∃ kind, ∃ block ∈ (Block.scan kind text).blocks,
      block.span.contains placeholder.span.start
  · obtain ⟨kind, block, member, contains⟩ := inside
    obtain ⟨offset, read⟩ := Block.exists_readFrom_of_mem_scan member
    exact ⟨block, block_mem_markers_iff.2 ⟨kind, member⟩, stands.within_of_start read contains⟩
  · have outside : BeginsOutside text placeholder := fun kind block member contains =>
      inside ⟨kind, block, member, contains⟩
    exact absurd (placeholder_mem_markers_iff.2 ⟨found, outside⟩) leftOut

/-! ### The places that are printed -/

/-- A row shows a part of a text: its kind, its path and the place at which it begins. -/
structure Shows (text : Text) (marker : Marker) (row : CheckCommand.Row) : Prop where
  kind : row.kind = marker.kindName
  target : row.target = marker.path
  position : Position.ofOffset? text marker.span.start = some row.position

/-- The rows that a check prints show the parts of the outline one by one. -/
theorem shows_markerRows (text : Text) :
    List.Forall₂ (Shows text) (ofText text).markers
      (CheckCommand.markerRows text (ofText text)) := by
  refine List.forall₂_map_right_iff.2 (List.forall₂_same.2 fun marker member => ⟨rfl, rfl, ?_⟩)
  have placed := Position.ofOffset?_isSome_iff.2 (Or.inl (isBoundary_start member))
  obtain ⟨place, found⟩ := Option.isSome_iff_exists.1 placed
  rw [CheckCommand.place, found]
  rfl

theorem precedes_place {first second : Nat} (ordered : first < second)
    (firstBoundary : text.IsBoundary first) (secondBoundary : text.IsBoundary second) :
    (CheckCommand.place text first).Precedes (CheckCommand.place text second) := by
  obtain ⟨place, place', found, found', precedes⟩ :=
    Position.precedes_of_lt ordered firstBoundary secondBoundary
  rwa [CheckCommand.place, CheckCommand.place, found, found']

/-- What a check prints shows rows: its table, or the first member of its document, consists of
them. -/
def Prints (rows : List CheckCommand.Row) (json : Bool) (stdout : Text) : Prop :=
  if json then
    ∃ others, stdout = asLine (Json.print (.object (("markers".toList, .array (rows.map fun row =>
      .object [("kind".toList, .string row.kind.toList), ("target".toList, .string row.target),
        ("line".toList, .number (Decimal.digits row.position.line)),
        ("column".toList, .number (Decimal.digits row.position.column))])) :: others)))
  else
    ∃ others, stdout = Table.draw ["Kind".toList, "Target".toList, "Position".toList]
      (rows.map fun row => [row.kind.toList, row.target,
        (s!"{row.position.line}:{row.position.column}").toList]) ++ others

/-- A check that reads a template and can tell its warnings prints the rows of the parts. -/
theorem prints_run {files : Files} {arguments : CheckArguments} {found : List Warning}
    (read : files arguments.file = .ok text)
    (warned : CheckCommand.warnings files text arguments.context = .ok found) :
    Prints (CheckCommand.markerRows text (ofText text)) arguments.json
      (CheckCommand.run files arguments).stdout := by
  rw [CheckCommand.run, read]
  simp only [warned]
  cases arguments.json with
  | true => exact ⟨_, rfl⟩
  | false => exact ⟨_, rfl⟩

/-- The rows that a check prints for the markers go forward through the text. -/
theorem pairwise_position_markerRows (text : Text) :
    (CheckCommand.markerRows text (ofText text)).Pairwise fun first second =>
      first.position.Precedes second.position := by
  refine List.pairwise_map.2 ((pairwise_start_markers text).imp_of_mem ?_)
  intro first second member member' ordered
  exact precedes_place ordered (isBoundary_start member) (isBoundary_start member')

/-- An outline is complete and in order. Its blocks of a kind are those of the scan for that kind,
its placeholders those of the scan that begin outside all blocks, and one that is left out lies
within a listed block. The starts of the parts ascend strictly, and so do the offsets of the
openers that nothing closes. A check prints a row for every part, with the place of its start, and
these places go forward through the text. -/
theorem markers_complete_and_ordered (text : Text) :
    (∀ kind, (ofText text).markers.filterMap (Marker.blockOf? kind) =
      (Block.scan kind text).blocks) ∧
    ((ofText text).markers.filterMap Marker.placeholder?).Sublist (Placeholder.scan text) ∧
    (∀ placeholder ∈ Placeholder.scan text,
      (.placeholder placeholder ∈ (ofText text).markers ↔ BeginsOutside text placeholder) ∧
      (.placeholder placeholder ∉ (ofText text).markers →
        ∃ block, .block block ∈ (ofText text).markers ∧
          placeholder.span.Within block.span)) ∧
    ((ofText text).markers.Pairwise fun first second => first.span.start < second.span.start) ∧
    ((ofText text).unclosed.Pairwise fun first second => first.offset < second.offset) ∧
    List.Forall₂ (Shows text) (ofText text).markers
      (CheckCommand.markerRows text (ofText text)) ∧
    ((CheckCommand.markerRows text (ofText text)).Pairwise fun first second =>
      first.position.Precedes second.position) ∧
    ∀ files arguments found, files arguments.file = .ok text →
      CheckCommand.warnings files text arguments.context = .ok found →
      Prints (CheckCommand.markerRows text (ofText text)) arguments.json
        (CheckCommand.run files arguments).stdout := by
  refine ⟨fun kind => filterMap_blockOf?_markers kind text, ?_, fun placeholder found => ⟨?_, ?_⟩,
    pairwise_start_markers text, pairwise_offset_unclosed text, shows_markerRows text,
    pairwise_position_markerRows text, fun _ _ _ => prints_run⟩
  · rw [filterMap_placeholder?_markers]
    exact List.filter_sublist
  · rw [placeholder_mem_markers_iff]
    exact and_iff_right found
  · exact exists_within_of_not_listed found

end Outline

end Stencil
