/-
This file says which placeholders are left in place. Filling divides a text at each
placeholder that the scan finds: what stands in front and what stands behind is filled
on its own, so a placeholder without a text stays where it is, as it is written. What
is written as a placeholder but stands somewhere in a text is not always found there:
a pair of braces further ahead can begin a placeholder that runs over it. Then the
path of that one holds a brace, so it stays as well where no text stands at such a
path. A pass over blocks keeps what lies apart from all blocks, and it keeps what it
puts in.
-/

import Stencil.Proofs.Render.Slicing
import Stencil.Proofs.Render.Unfolding

namespace Stencil

/-! ### Reading a written placeholder -/

namespace Placeholder

/-- A text can be the content of a placeholder: it names a path, and no closing braces begin in
it, also not where it meets the braces of the placeholder. -/
structure IsContent (content : Text) : Prop where
  skips : Text.Skips closeBraces content closeBraces
  isPath : Placeholder.isPath content.trim

/-- What is read at the front of a text depends on what is written there alone. -/
theorem read?_eq_some_iff_isContent {text content rest : Text} :
    read? text = some (content, rest) ↔ text = written content ++ rest ∧ IsContent content := by
  rw [read?_eq_some_iff]
  constructor
  · rintro ⟨inside, rfl, found, isPath⟩
    have skips := Text.skips_append_right_iff.1 (Text.skips_of_cut? found)
    refine ⟨?_, skips, isPath⟩
    rw [Text.eq_append_of_cut? found, written]
    simp only [List.append_assoc]
  · rintro ⟨rfl, skips, isPath⟩
    refine ⟨content ++ (closeBraces ++ rest), ?_, ?_, isPath⟩
    · rw [written]
      simp only [List.append_assoc]
    · exact Text.cut?_of_skips (by decide) (Text.skips_append_right_iff.2 skips)

theorem read?_append_right {text content rest : Text} (read : read? text = some (content, rest))
    (more : Text) : read? (text ++ more) = some (content, rest ++ more) := by
  obtain ⟨rfl, isContent⟩ := read?_eq_some_iff_isContent.1 read
  exact read?_eq_some_iff_isContent.2 ⟨List.append_assoc _ _ _, isContent⟩

/-- Where nothing is read in a text, nothing is read when it ends earlier. -/
theorem read?_eq_none_of_append {text more : Text} (unread : read? (text ++ more) = none) :
    read? text = none := by
  cases read : read? text with
  | none => rfl
  | some parts =>
    obtain ⟨content, rest⟩ := parts
    rw [read?_append_right read more] at unread
    contradiction

end Placeholder

/-! ### Filling around a placeholder -/

namespace Render

/-- Filling divides the text at a placeholder: the text in front, what the placeholder gives way
to, and the text behind. -/
theorem exists_interpolate_eq_of_mem_scanFrom (root : Value) {offset : Nat} {text : Text}
    {placeholder : Placeholder} (member : placeholder ∈ Placeholder.scanFrom offset text) :
    ∃ before content after, text = before ++ (Placeholder.written content ++ after) ∧
      Placeholder.IsContent content ∧
      placeholder = ⟨content.trim, ⟨offset + before.size,
        offset + before.size + (Placeholder.written content).size⟩⟩ ∧
      interpolate root text = interpolate root before ++
        ((root.lookupText content.trim).getD (Placeholder.written content) ++
          interpolate root after) := by
  fun_induction Placeholder.scanFrom offset text with
  | case1 => exact absurd member List.not_mem_nil
  | case2 offset character rest content after read stop inductionHypothesis =>
    obtain ⟨whole, isContent⟩ := Placeholder.read?_eq_some_iff_isContent.1 read
    rcases List.mem_cons.1 member with rfl | later
    · refine ⟨[], content, after, whole, isContent, rfl, ?_⟩
      rw [interpolate_nil, List.nil_append]
      exact interpolate_of_read? root read
    · obtain ⟨before, other, behind, rfl, otherIsContent, rfl, filled⟩ := inductionHypothesis later
      refine ⟨Placeholder.written content ++ before, other, behind, ?_, otherIsContent, ?_, ?_⟩
      · rw [whole, List.append_assoc]
      · simp only [stop, Text.size_append, Nat.add_assoc]
      · have front : Placeholder.read? (Placeholder.written content ++ before) =
            some (content, before) :=
          Placeholder.read?_eq_some_iff_isContent.2 ⟨rfl, isContent⟩
        rw [interpolate_of_read? root read, interpolate_of_read? root front, filled,
          List.append_assoc]
  | case3 offset character rest unread inductionHypothesis =>
    obtain ⟨before, content, after, rfl, isContent, rfl, filled⟩ := inductionHypothesis member
    refine ⟨character :: before, content, after, rfl, isContent, ?_, ?_⟩
    · simp only [Text.size_cons, Nat.add_assoc]
    · have front : Placeholder.read? (character :: before) = none :=
        Placeholder.read?_eq_none_of_append unread
      rw [interpolate_of_not_read root unread, interpolate_of_not_read root front, filled,
        List.cons_append]

/-- A placeholder without a text is kept as it is written, between what stands in front of it and
what stands behind it, each filled as if it stood alone. -/
theorem exists_interpolate_eq_of_unfilled {root : Value} {text : Text} {placeholder : Placeholder}
    (member : placeholder ∈ Placeholder.scan text)
    (unfilled : root.lookupText placeholder.path = none) :
    ∃ before content after, text = before ++ (Placeholder.written content ++ after) ∧
      Placeholder.IsContent content ∧
      placeholder = ⟨content.trim, ⟨before.size,
        before.size + (Placeholder.written content).size⟩⟩ ∧
      interpolate root text =
        interpolate root before ++ (Placeholder.written content ++ interpolate root after) := by
  obtain ⟨before, content, after, whole, isContent, rfl, filled⟩ :=
    exists_interpolate_eq_of_mem_scanFrom root member
  have nothing : root.lookupText content.trim = none := unfilled
  rw [nothing, Option.getD_none] at filled
  refine ⟨before, content, after, whole, isContent, ?_, filled⟩
  rw [Nat.zero_add]

end Render

/-! ### What begins in front of a placeholder -/

namespace Text

/-- A text without closing braces has none in front of an opening brace either. -/
theorem skips_closeBraces_of_cut?_eq_none {front : Text} (absent : cut? closeBraces front = none)
    (after : Text) : Skips closeBraces front ('{' :: after) := by
  have alone := skips_of_cut?_eq_none absent
  clear absent
  induction front with
  | nil => trivial
  | cons character rest inductionHypothesis =>
    obtain ⟨differs, restAlone⟩ := alone
    refine ⟨fun starts => ?_, inductionHypothesis restAlone⟩
    cases rest with
    | nil => exact absurd (List.cons_prefix_cons.1 (List.cons_prefix_cons.1 starts).2).1 (by decide)
    | cons next tail =>
      have longer : closeBraces.length ≤ (character :: next :: tail).length := by
        simp [closeBraces]
      have within : closeBraces <+: character :: next :: tail :=
        List.prefix_of_prefix_length_le starts
          (List.prefix_append (character :: next :: tail) ('{' :: after)) longer
      rw [List.append_nil] at differs
      exact differs within

theorem mem_trim_of_not_blank {character : Char} (inked : isBlank character = false) {text : Text}
    (member : character ∈ text) : character ∈ text.trim := by
  obtain ⟨front, back, whole, frontBlank, backBlank⟩ := exists_eq_append_trim text
  rw [whole] at member
  rcases List.mem_append.1 member with inner | last
  · rcases List.mem_append.1 inner with first | core
    · rw [frontBlank character first] at inked
      contradiction
    · exact core
  · rw [backBlank character last] at inked
    contradiction

end Text

/-- What is read in front of a written placeholder ends in front of it, or runs over it up to
its end. -/
theorem Placeholder.cases_of_read?_append {before content after other rest : Text}
    (isContent : IsContent content) (nonempty : before ≠ [])
    (read : read? (before ++ (written content ++ after)) = some (other, rest)) :
    (∃ between, before = written other ++ between ∧
      rest = between ++ (written content ++ after)) ∨
    ('{' ∈ other ∧ written other = before ++ written content ∧ rest = after) := by
  obtain ⟨inside, whole, found, -⟩ := read?_eq_some_iff.1 read
  have contentSkips : Text.Skips closeBraces content (closeBraces ++ after) :=
    Text.skips_append_right_iff.2 isContent.skips
  match before, nonempty with
  | [first], _ =>
    obtain ⟨rfl, rfl⟩ : '{' :: (content ++ (closeBraces ++ after)) = inside ∧ first = '{' := by
      simpa [written, openBraces, and_comm] using whole
    have skips : Text.Skips closeBraces ('{' :: content) (closeBraces ++ after) :=
      ⟨fun starts => absurd (List.cons_prefix_cons.1 starts).1 (by decide), contentSkips⟩
    have cut := Text.cut?_of_skips (by decide) skips
    rw [List.cons_append, found] at cut
    obtain ⟨rfl, rfl⟩ : other = '{' :: content ∧ rest = after := by simpa using cut
    exact Or.inr ⟨List.mem_cons_self, rfl, rfl⟩
  | first :: second :: tail, _ =>
    obtain ⟨rfl, rfl, rfl⟩ : first = '{' ∧ second = '{' ∧
        tail ++ (written content ++ after) = inside := by
      simpa [openBraces] using whole
    cases early : Text.cut? closeBraces tail with
    | some parts =>
      obtain ⟨front, between⟩ := parts
      rw [Text.cut?_append_right (by decide) early] at found
      obtain ⟨rfl, rfl⟩ : front = other ∧ between ++ (written content ++ after) = rest := by
        simpa using found
      refine Or.inl ⟨between, ?_, rfl⟩
      rw [Text.eq_append_of_cut? early, written]
      simp [openBraces]
    | none =>
      have skips : Text.Skips closeBraces (tail ++ (openBraces ++ content))
          (closeBraces ++ after) := by
        refine Text.skips_append.2 ⟨?_, Text.skips_append.2 ⟨?_, contentSkips⟩⟩
        · exact Text.skips_closeBraces_of_cut?_eq_none early _
        · exact Text.skips_of_not_mem (by decide)
      have cut := Text.cut?_of_skips (by decide) skips
      have same : tail ++ (written content ++ after) =
          tail ++ (openBraces ++ content) ++ (closeBraces ++ after) := by
        simp [written]
      rw [← same, found] at cut
      obtain ⟨rfl, rfl⟩ : other = tail ++ (openBraces ++ content) ∧ rest = after := by
        simpa using cut
      refine Or.inr ⟨?_, ?_, rfl⟩
      · exact List.mem_append_right _ List.mem_cons_self
      · simp [written, openBraces]

/-- A written placeholder survives a filling from a root that has no text at its path and none
at a path with a brace that the scan finds. -/
theorem Render.written_infix_interpolate {root : Value} {offset : Nat}
    {text before content after : Text} (isContent : Placeholder.IsContent content)
    (noText : root.lookupText content.trim = none)
    (noBraced : ∀ placeholder ∈ Placeholder.scanFrom offset text, '{' ∈ placeholder.path →
      root.lookupText placeholder.path = none)
    (whole : text = before ++ (Placeholder.written content ++ after)) :
    Placeholder.written content <:+: interpolate root text := by
  have atFront : Placeholder.read? (Placeholder.written content ++ after) = some (content, after) :=
    Placeholder.read?_eq_some_iff_isContent.2 ⟨rfl, isContent⟩
  fun_induction Placeholder.scanFrom offset text generalizing before with
  | case1 offset => simp [Placeholder.written, openBraces] at whole
  | case2 offset character rest other behind read stop =>
    rename_i inductionHypothesis
    obtain ⟨noBracedFirst, noBracedLater⟩ := List.forall_mem_cons.1 noBraced
    rw [interpolate_of_read? root read]
    rw [whole] at read
    cases before with
    | nil =>
      rw [List.nil_append, atFront] at read
      obtain ⟨rfl, rfl⟩ : content = other ∧ after = behind := by simpa using read
      rw [noText, Option.getD_none]
      exact (List.prefix_append _ _).isInfix
    | cons first tail =>
      rcases Placeholder.cases_of_read?_append isContent (List.cons_ne_nil _ _) read with
        ⟨between, -, divided⟩ | ⟨braced, runsOver, -⟩
      · exact (inductionHypothesis noBracedLater divided).trans (List.suffix_append _ _).isInfix
      · have kept : root.lookupText other.trim = none :=
          noBracedFirst (Text.mem_trim_of_not_blank (by decide) braced)
        rw [kept, Option.getD_none, runsOver]
        exact ⟨first :: tail, interpolate root behind, rfl⟩
  | case3 offset character rest unread inductionHypothesis =>
    rw [interpolate_of_not_read root unread]
    cases before with
    | nil =>
      rw [whole, List.nil_append, atFront] at unread
      contradiction
    | cons first tail =>
      obtain ⟨rfl, divided⟩ := List.cons.inj whole
      exact (inductionHypothesis noBraced divided).trans (List.suffix_cons _ _).isInfix

/-! ### What a pass over blocks keeps -/

namespace Edit

theorem new_infix_spliceFrom {offset : Nat} {remaining : Text} {edits : List Edit} {edit : Edit}
    (member : edit ∈ edits) : edit.new <:+: spliceFrom offset remaining edits := by
  induction edits generalizing offset remaining with
  | nil => exact absurd member List.not_mem_nil
  | cons first later inductionHypothesis =>
    rw [spliceFrom]
    rcases List.mem_cons.1 member with rfl | further
    · exact List.infix_append _ _ _
    · exact (inductionHypothesis further).trans (List.suffix_append _ _).isInfix

/-- A stretch of the text that lies apart from all spans is kept. -/
theorem infix_spliceFrom_of_apart (front before middle after : Text) {edits : List Edit}
    (fits : FitFrom (front ++ (before ++ (middle ++ after))) front.size edits)
    (apart : ∀ edit ∈ edits, edit.span.stop ≤ front.size + before.size ∨
      front.size + before.size + middle.size ≤ edit.span.start) :
    middle <:+: spliceFrom front.size (before ++ (middle ++ after)) edits := by
  induction edits generalizing front before with
  | nil => exact ⟨before, after, List.append_assoc _ _ _⟩
  | cons edit later inductionHypothesis =>
    obtain ⟨kept, replaced, beyond, divided, starts, stops, laterFits⟩ :=
      exists_pieces_of_fitFrom fits
    rcases apart edit List.mem_cons_self with early | late
    · -- The edit lies in front of the stretch, which the rest of the edits keep.
      have sizes : Text.size (kept ++ replaced) ≤ before.size := by
        rw [Text.size_append]
        omega
      obtain ⟨between, rfl, rfl⟩ := Text.exists_eq_append_of_size_le divided.symm sizes
      have through : (front ++ kept ++ replaced).size = edit.span.stop := by
        rw [Text.size_append, Text.size_append, stops]
      have pieces : kept ++ replaced ++ between ++ (middle ++ after) =
          kept ++ replaced ++ (between ++ (middle ++ after)) := List.append_assoc _ _ _
      rw [← through] at laterFits
      have recursive := inductionHypothesis (front ++ kept ++ replaced) between laterFits
        fun other member => by
          have placed := apart other (List.mem_cons_of_mem _ member)
          simp only [Text.size_append] at placed ⊢
          omega
      rw [through] at recursive
      rw [pieces, spliceFrom_cons starts stops]
      exact recursive.trans (List.suffix_append _ _).isInfix
    · -- The edit lies behind the stretch, which is copied in front of it.
      have sizes : Text.size (before ++ middle) ≤ kept.size := by
        rw [Text.size_append]
        omega
      have whole : before ++ middle ++ after = kept ++ (replaced ++ beyond) := by
        rw [List.append_assoc, divided, List.append_assoc]
      obtain ⟨between, rfl, -⟩ := Text.exists_eq_append_of_size_le whole sizes
      rw [divided, spliceFrom_cons starts stops]
      simp only [List.append_assoc]
      exact List.infix_append' before middle _

end Edit

namespace Render

/-- What takes the place of a block stands in the result. -/
theorem expansion_infix_expand {kind : BlockKind} (root : Value) {text : Text} {block : Block}
    (member : block ∈ (Block.scan kind text).blocks) :
    block.expansion root <:+: expand kind root text := by
  have edited : (⟨block.span, block.expansion root⟩ : Edit) ∈
      (Block.scan kind text).blocks.map fun block => ⟨block.span, block.expansion root⟩ :=
    List.mem_map_of_mem member
  exact Edit.new_infix_spliceFrom edited

/-- What stands apart from all blocks is kept. -/
theorem infix_expand_of_apart {kind : BlockKind} (root : Value) {before middle after : Text}
    (apart : ∀ block ∈ (Block.scan kind (before ++ (middle ++ after))).blocks,
      block.span.stop ≤ before.size ∨ before.size + middle.size ≤ block.span.start) :
    middle <:+: expand kind root (before ++ (middle ++ after)) := by
  have fits := fit_expand kind root (before ++ (middle ++ after))
  refine Edit.infix_spliceFrom_of_apart [] before middle after fits fun edit member => ?_
  obtain ⟨block, found, rfl⟩ := List.mem_map.1 member
  rw [Text.size_nil, Nat.zero_add]
  exact apart block found

end Render

end Stencil
