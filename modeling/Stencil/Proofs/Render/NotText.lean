/-
This file says where the placeholders stand that a rendering reports because their
paths lead to a list or a record. The pass that reports a placeholder leaves it in
place. When the last pass reports it, it stands in the page. When an item of an `each`
block reports it, it stands in the text that the first pass writes, and later passes
still read that text: from the root its path may lead to a text, a `for` block may
take it in, and a placeholder that begins in front of it may run over it. Where none
of these happens it stands in the page as well; a path that leads to a list from an
item and to a text from the root shows that the report can be outdated.
-/

import Stencil.Proofs.Marker.BlockScan
import Stencil.Proofs.Render.LeftInPlace
import Stencil.Proofs.Render.Reports

namespace Stencil

/-- A placeholder with a path stands in a text as it is written. -/
def Placeholder.ShownIn (text path : Text) : Prop :=
  ∃ content, content.trim = path ∧ written content <:+: text

theorem Value.lookupText_eq_none_of_text? {root value : Value} {path : Text}
    (found : root.lookup path = some value) (noText : value.text? = none) :
    root.lookupText path = none := by
  rw [lookupText, found, Option.bind_some, noText]

/-! ### Who makes such a report -/

/-- A placeholder of a text has a path that leads to a list or a record. -/
def Placeholder.LeadsToNoText (root : Value) (text path : Text) (found : Shape) : Prop :=
  ∃ placeholder ∈ scan text, placeholder.path = path ∧
    ∃ value, root.lookup path = some value ∧ value.text? = none ∧ value.shape = found

theorem Placeholder.leadsToNoText_of_notText_mem {root : Value} {isItem : Bool} {text path : Text}
    {found : Shape}
    (reported : .notText path found ∈ Render.interpolationWarnings root isItem text) :
    LeadsToNoText root text path found := by
  obtain ⟨placeholder, member, byRoot⟩ := Render.mem_interpolationWarnings.1 reported
  rcases warning?_eq_some_iff.1 byRoot with ⟨value, looked, noText, same⟩ | ⟨-, -, same⟩
  · obtain ⟨rfl, rfl⟩ : path = placeholder.path ∧ found = value.shape := by simpa using same
    exact ⟨placeholder, member, rfl, value, looked, noText, rfl⟩
  · contradiction

theorem Placeholder.LeadsToNoText.exists_written_infix {root : Value} {text path : Text}
    {found : Shape} (leads : LeadsToNoText root text path found) :
    ∃ content, IsContent content ∧ content.trim = path ∧
      written content <:+: Render.interpolate root text := by
  obtain ⟨placeholder, member, rfl, value, looked, noText, -⟩ := leads
  obtain ⟨before, content, after, -, isContent, rfl, filled⟩ :=
    Render.exists_interpolate_eq_of_unfilled member
      (Value.lookupText_eq_none_of_text? looked noText)
  refine ⟨content, isContent, rfl, ?_⟩
  rw [filled]
  exact List.infix_append' _ _ _

/-- An item of an `each` block of a template has a list or a record at a path that a placeholder
in the body of the block names. -/
def Render.ReportedByItem (root : Value) (template path : Text) (found : Shape) : Prop :=
  ∃ block ∈ (Block.scan .each template).blocks,
    ∃ item ∈ (root.lookupItems block.path).getD [],
      Placeholder.LeadsToNoText item block.body path found

theorem Block.exists_item_of_notText_mem {root : Value} {block : Block} {path : Text}
    {found : Shape} (reported : .notText path found ∈ block.warnings root) :
    block.kind = .each ∧ ∃ item ∈ (root.lookupItems block.path).getD [],
      Placeholder.LeadsToNoText item block.body path found := by
  rcases cases_of_mem_warnings reported with
    same | ⟨_, _, _, same⟩ | ⟨_, _, _, same⟩ | ⟨isEach, item, member, ofItem⟩
  · contradiction
  · contradiction
  · contradiction
  · exact ⟨isEach, item, member, Placeholder.leadsToNoText_of_notText_mem ofItem⟩

/-- A report that a path leads to a list or a record comes from the last pass or from an item. -/
theorem Render.cases_of_notText_mem {root : Value} {template path : Text} {found : Shape}
    (reported : .notText path found ∈ (render root template).warnings) :
    Placeholder.LeadsToNoText root (afterBlocks root template) path found ∨
      ReportedByItem root template path found := by
  rcases mem_pageWarnings.1 (mem_warnings_render.1 reported) with
    ⟨kind, ofOpener⟩ | ofEach | ofLoop | ofPlaceholder
  · obtain ⟨unclosed, -, same⟩ := mem_unclosedWarnings.1 ofOpener
    contradiction
  · obtain ⟨block, member, ofBlock⟩ := List.mem_flatMap.1 ofEach
    obtain ⟨-, byItem⟩ := Block.exists_item_of_notText_mem ofBlock
    exact Or.inr ⟨block, member, byItem⟩
  · obtain ⟨block, member, ofBlock⟩ := List.mem_flatMap.1 ofLoop
    obtain ⟨isEach, -⟩ := Block.exists_item_of_notText_mem ofBlock
    rw [Block.kind_of_mem_scan member] at isEach
    contradiction
  · exact Or.inl (Placeholder.leadsToNoText_of_notText_mem ofPlaceholder)

/-- The first pass leaves in place what an item reports. -/
theorem Render.exists_written_infix_afterEach {root : Value} {template path : Text} {found : Shape}
    (byItem : ReportedByItem root template path found) :
    ∃ content, Placeholder.IsContent content ∧ content.trim = path ∧
      Placeholder.written content <:+: afterEach root template := by
  obtain ⟨block, member, item, itemMember, leads⟩ := byItem
  obtain ⟨content, isContent, trimmed, stands⟩ := leads.exists_written_infix
  have copied : interpolate item block.body <:+: block.expansion root := by
    obtain ⟨before, after, whole⟩ := List.append_of_mem itemMember
    rw [Block.expansion, Block.kind_of_mem_scan member]
    show _ <:+: Block.eachCopies block.body ((root.lookupItems block.path).getD [])
    rw [whole, Block.eachCopies, List.flatMap_append, List.flatMap_cons]
    exact List.infix_append' _ _ _
  exact ⟨content, isContent, trimmed,
    stands.trans (copied.trans (expansion_infix_expand root member))⟩

/-! ### The later passes -/

/-- A later pass may overtake a placeholder that the first pass has written behind a front: the
root has a text at its path, a `for` block reaches into it, or the last pass fills a placeholder
whose path holds a brace, as one has that begins in front of it and runs over it. -/
def Render.MayOvertake (root : Value) (template before content : Text) : Prop :=
  (root.lookupText content.trim).isSome ∨
  (∃ block ∈ (Block.scan .loop (afterEach root template)).blocks, before.size < block.span.stop ∧
    block.span.start < before.size + (Placeholder.written content).size) ∨
  ∃ placeholder ∈ Placeholder.scan (afterBlocks root template), '{' ∈ placeholder.path ∧
    (root.lookupText placeholder.path).isSome

/-- What nothing overtakes stands in the page. -/
theorem Render.written_infix_page {root : Value} {template before content after : Text}
    (isContent : Placeholder.IsContent content)
    (whole : afterEach root template = before ++ (Placeholder.written content ++ after))
    (safe : ¬ MayOvertake root template before content) :
    Placeholder.written content <:+: page root template := by
  have noText : root.lookupText content.trim = none := by
    by_contra some
    exact safe (Or.inl (Option.isSome_iff_ne_none.2 some))
  have apart : ∀ block ∈ (Block.scan .loop (afterEach root template)).blocks,
      block.span.stop ≤ before.size ∨
        before.size + (Placeholder.written content).size ≤ block.span.start := by
    intro block member
    by_contra reaches
    refine safe (Or.inr (Or.inl ⟨block, member, ?_⟩))
    omega
  have noBraced : ∀ placeholder ∈ Placeholder.scan (afterBlocks root template),
      '{' ∈ placeholder.path → root.lookupText placeholder.path = none := by
    intro placeholder member braced
    by_contra some
    exact safe (Or.inr (Or.inr ⟨placeholder, member, braced, Option.isSome_iff_ne_none.2 some⟩))
  rw [whole] at apart
  obtain ⟨front, back, expanded⟩ := infix_expand_of_apart root apart
  have divided : afterBlocks root template =
      front ++ (Placeholder.written content ++ back) := by
    rw [afterBlocks, whole, ← expanded, List.append_assoc]
  exact written_infix_interpolate isContent noText noBraced divided

/-- A placeholder that is reported for a list or a record stands in the page, unless an item
reported it: then it stands in the text that the first pass writes, and is missing from
the page only where a later pass may overtake it. -/
theorem notText_report_shown {root : Value} {template path : Text} {found : Shape}
    (reported : .notText path found ∈ (render root template).warnings) :
    Placeholder.ShownIn (render root template).output path ∨
      (Render.ReportedByItem root template path found ∧
        ∃ before content after, content.trim = path ∧
          Render.afterEach root template = before ++ (Placeholder.written content ++ after) ∧
          Render.MayOvertake root template before content) := by
  rcases Render.cases_of_notText_mem reported with byRoot | byItem
  · obtain ⟨content, -, trimmed, stands⟩ := byRoot.exists_written_infix
    exact Or.inl ⟨content, trimmed, stands⟩
  · obtain ⟨content, isContent, trimmed, before, after, whole⟩ :=
      Render.exists_written_infix_afterEach byItem
    rw [List.append_assoc] at whole
    by_cases overtaken : Render.MayOvertake root template before content
    · exact Or.inr ⟨byItem, before, content, after, trimmed, whole.symm, overtaken⟩
    · exact Or.inl ⟨content, trimmed, Render.written_infix_page isContent whole.symm overtaken⟩

/-- A list at the root is reported and shown, behind an item that has a text. -/
theorem notText_report_shown_list :
    let root : Value := .record [(['a'], .list []),
      (['r'], .list [.record [(['b'], .text ['x'])]])]
    let template := Block.written .each ['r'] (Placeholder.written ['b']) ++
      Placeholder.written ['a']
    .notText ['a'] .list ∈ (render root template).warnings ∧
      Placeholder.ShownIn (render root template).output ['a'] := by
  intro root template
  have reported : .notText ['a'] .list ∈ (render root template).warnings := by decide +kernel
  refine ⟨reported, ?_⟩
  rcases notText_report_shown reported with shown | ⟨byItem, -⟩
  · exact shown
  · have blocks : (Block.scan .each template).blocks =
        [⟨.each, ['r'], Placeholder.written ['b'], ⟨0, 29⟩⟩] := by decide +kernel
    obtain ⟨block, member, item, itemMember, -, -, -, value, looked, -⟩ := byItem
    rw [blocks] at member
    obtain rfl := List.mem_singleton.1 member
    obtain rfl := List.mem_singleton.1 itemMember
    contradiction

/-- An item has a list and the root a text at the path of one placeholder: it is reported for the
list and gives way to the text. -/
theorem notText_report_outdated :
    let root : Value := .record [(['a'], .text ['A']),
      (['r'], .list [.record [(['a'], .list [])]])]
    let template := Block.written .each ['r'] (Placeholder.written ['a'])
    .notText ['a'] .list ∈ (render root template).warnings ∧
      ¬ Placeholder.ShownIn (render root template).output ['a'] := by
  intro root template
  have output : (render root template).output = ['A'] := by decide +kernel
  refine ⟨by decide +kernel, ?_⟩
  rintro ⟨content, -, stands⟩
  have brace : '{' ∈ Placeholder.written content := List.mem_cons_self
  rw [output] at stands
  exact absurd (stands.subset brace) (by decide)

end Stencil
