/-
This file divides what a pass writes into the stretches that the pass puts together.
Such a stretch is copied from the text that the pass reads, or from the body of a
block, or it is a text of the data or a written integer. In a value without braces a
stretch with a brace is therefore copied. A word that none of the stretches holds can
still stand in what a pass writes: then it begins in one stretch and ends in another.
-/

import Stencil.Proofs.Render.Unfolding
import Stencil.Proofs.Template.BraceFree

namespace Stencil

namespace Text

/-- A word stands in texts put one behind the other, but in none of them alone. -/
def ArisesIn (word : Text) (stretches : List Text) : Prop :=
  word <:+: stretches.flatten ∧ ∀ stretch ∈ stretches, ¬ word <:+: stretch

instance (word : Text) (stretches : List Text) : Decidable (word.ArisesIn stretches) :=
  inferInstanceAs (Decidable (_ ∧ _))

/-- A word in texts put one behind the other stands in one of them or arises there. -/
theorem infix_or_arisesIn {word : Text} {stretches : List Text}
    (stands : word <:+: stretches.flatten) :
    (∃ stretch ∈ stretches, word <:+: stretch) ∨ word.ArisesIn stretches := by
  by_cases alone : ∃ stretch ∈ stretches, word <:+: stretch
  · exact Or.inl alone
  · refine Or.inr ⟨stands, fun stretch member within => ?_⟩
    exact alone ⟨stretch, member, within⟩

theorem takeBytes_infix (text : Text) (count : Nat) : takeBytes text count <:+: text :=
  ⟨[], dropBytes text count, takeBytes_append_dropBytes text count⟩

theorem dropBytes_infix (text : Text) (count : Nat) : dropBytes text count <:+: text := by
  refine ⟨takeBytes text count, [], ?_⟩
  rw [List.append_nil, takeBytes_append_dropBytes]

/-- The text before the first occurrence of a word does not hold it. -/
theorem not_infix_of_cut? {word text before after : Text} (nonempty : word ≠ [])
    (found : cut? word text = some (before, after)) : ¬ word <:+: before := by
  rintro ⟨front, back, stands⟩
  have earlier : text = front ++ word ++ (back ++ (word ++ after)) := by
    rw [eq_append_of_cut? found, ← stands]
    simp only [List.append_assoc]
  have bound := length_le_of_cut? found earlier
  have positive : 0 < word.length := List.length_pos_iff.2 nonempty
  rw [← stands] at bound
  simp only [List.length_append] at bound
  omega

/-! ### Replacing every occurrence -/

/-- What replacing every occurrence of a word puts together. -/
def replacedStretches (word new text : Text) : List Text :=
  if word = [] then [text]
  else
    match _found : cut? word text with
    | none => [text]
    | some (before, after) => before :: new :: replacedStretches word new after
termination_by text.length
decreasing_by
  have bound := length_add_le_of_cut? _found
  have positive : 0 < word.length := List.length_pos_iff.2 ‹_›
  omega

theorem flatten_replacedStretches (word new text : Text) :
    (replacedStretches word new text).flatten = replaceAll word new text := by
  fun_induction replacedStretches word new text with
  | case1 text empty => simp [replaceAll, empty]
  | case2 text nonempty absent => simp [replaceAll_of_cut?_eq_none absent]
  | case3 text nonempty before after found inductionHypothesis =>
    rw [replaceAll_of_cut?_eq_some nonempty found, List.flatten_cons, List.flatten_cons,
      inductionHypothesis, List.append_assoc]

theorem mem_replacedStretches {word new text stretch : Text}
    (member : stretch ∈ replacedStretches word new text) : stretch <:+: text ∨ stretch = new := by
  fun_induction replacedStretches word new text with
  | case1 text empty => exact Or.inl (List.mem_singleton.1 member ▸ List.infix_refl _)
  | case2 text nonempty absent => exact Or.inl (List.mem_singleton.1 member ▸ List.infix_refl _)
  | case3 text nonempty before after found inductionHypothesis =>
    have whole := eq_append_of_cut? found
    rcases List.mem_cons.1 member with rfl | member
    · rw [whole, List.append_assoc]
      exact Or.inl (List.prefix_append _ _).isInfix
    · rcases List.mem_cons.1 member with rfl | later
      · exact Or.inr rfl
      · rcases inductionHypothesis later with copied | same
        · rw [whole]
          exact Or.inl (copied.trans (List.suffix_append _ _).isInfix)
        · exact Or.inr same

end Text

/-! ### Splicing -/

namespace Edit

/-- What a splicing puts together: the text between the spans, and for each span the texts that
take its place. -/
def stretchesFrom (offset : Nat) (remaining : Text) : List (Span × List Text) → List Text
  | [] => [remaining]
  | (span, new) :: later =>
    remaining.takeBytes (span.start - offset) ::
      (new ++ stretchesFrom span.stop (remaining.dropBytes (span.stop - offset)) later)

theorem flatten_stretchesFrom (offset : Nat) (remaining : Text)
    (changes : List (Span × List Text)) :
    (stretchesFrom offset remaining changes).flatten =
      spliceFrom offset remaining (changes.map fun change => ⟨change.1, change.2.flatten⟩) := by
  induction changes generalizing offset remaining with
  | nil => exact List.append_nil _
  | cons change later inductionHypothesis =>
    obtain ⟨span, new⟩ := change
    rw [stretchesFrom, List.flatten_cons, List.flatten_append, inductionHypothesis,
      ← List.append_assoc]
    rfl

/-- A change between two texts keeps the one, puts its texts there and goes on with the other. -/
theorem stretchesFrom_cons {offset : Nat} {before middle after : Text} {span : Span}
    (starts : span.start = offset + before.size)
    (stops : span.stop = offset + before.size + middle.size) (new : List Text)
    (later : List (Span × List Text)) :
    stretchesFrom offset (before ++ middle ++ after) ((span, new) :: later) =
      before :: (new ++ stretchesFrom span.stop after later) := by
  have front : span.start - offset = before.size := by omega
  have back : span.stop - offset = Text.size (before ++ middle) := by
    rw [Text.size_append]
    omega
  rw [stretchesFrom, front, back, Text.dropBytes_size_append, List.append_assoc before middle after,
    Text.takeBytes_size_append]

theorem mem_stretchesFrom {offset : Nat} {remaining stretch : Text}
    {changes : List (Span × List Text)}
    (member : stretch ∈ stretchesFrom offset remaining changes) :
    stretch <:+: remaining ∨ ∃ change ∈ changes, stretch ∈ change.2 := by
  induction changes generalizing offset remaining with
  | nil => exact Or.inl (List.mem_singleton.1 member ▸ List.infix_refl _)
  | cons change later inductionHypothesis =>
    rcases List.mem_cons.1 member with rfl | member
    · exact Or.inl (Text.takeBytes_infix _ _)
    · rcases List.mem_append.1 member with new | behind
      · exact Or.inr ⟨change, List.mem_cons_self, new⟩
      · rcases inductionHypothesis behind with kept | ⟨other, further, inserted⟩
        · exact Or.inl (kept.trans (Text.dropBytes_infix _ _))
        · exact Or.inr ⟨other, List.mem_cons_of_mem _ further, inserted⟩

end Edit

/-! ### Filling placeholders -/

namespace Render

/-- What filling the placeholders of a text puts together. -/
def filledStretches (root : Value) (text : Text) : List Text :=
  Edit.stretchesFrom 0 text ((Placeholder.scan text).filterMap fun placeholder =>
    (root.lookupText placeholder.path).map fun content => (placeholder.span, [content]))

theorem flatten_filledStretches (root : Value) (text : Text) :
    (filledStretches root text).flatten = interpolate root text := by
  have edits : Placeholder.edit? root = fun placeholder =>
      ((root.lookupText placeholder.path).map fun content =>
        (placeholder.span, [content])).map fun change => ⟨change.1, change.2.flatten⟩ := by
    funext placeholder
    rw [Placeholder.edit?, Option.map_map]
    cases root.lookupText placeholder.path <;> simp
  rw [filledStretches, Edit.flatten_stretchesFrom, List.map_filterMap, interpolate, edits]
  rfl

theorem mem_filledStretches {root : Value} {text stretch : Text}
    (member : stretch ∈ filledStretches root text) :
    stretch <:+: text ∨ ∃ path, root.lookupText path = some stretch := by
  rcases Edit.mem_stretchesFrom member with kept | ⟨change, listed, inserted⟩
  · exact Or.inl kept
  · obtain ⟨placeholder, -, filled⟩ := List.mem_filterMap.1 listed
    obtain ⟨content, found, rfl⟩ := Option.map_eq_some_iff.1 filled
    obtain rfl := List.mem_singleton.1 inserted
    exact Or.inr ⟨placeholder.path, found⟩

end Render

theorem Value.BraceFree.cases_of_mem_filledStretches {root : Value} {text stretch : Text}
    (free : root.BraceFree) (member : stretch ∈ Render.filledStretches root text) :
    stretch <:+: text ∨ stretch.isBraceFree := by
  rcases Render.mem_filledStretches member with kept | ⟨path, found⟩
  · exact Or.inl kept
  · exact Or.inr (free.lookupText found)

/-! ### Expanding blocks -/

namespace Block

/-- What the expansion of a block puts together. -/
def expansionStretches (root : Value) (block : Block) : List Text :=
  match block.kind with
  | .each => ((root.lookupItems block.path).getD []).flatMap fun item =>
      Render.filledStretches item block.body
  | .loop =>
    match LoopTarget.ofText block.target with
    | .range first last => (LoopTarget.integers first last).flatMap fun index =>
        Text.replacedStretches indexToken (Integer.print index) block.body
    | .path path => (((root.lookupItems path).getD []).filterMap Value.text?).flatMap fun content =>
        Text.replacedStretches itemToken content block.body

theorem flatten_expansionStretches (root : Value) (block : Block) :
    (block.expansionStretches root).flatten = block.expansion root := by
  have copies {α : Type} (stretches : α → List Text) (items : List α) :
      (items.flatMap stretches).flatten = items.flatMap fun item => (stretches item).flatten := by
    simp only [List.flatten_eq_flatMap, List.flatMap_assoc]
  rw [expansionStretches, expansion]
  cases block.kind with
  | each => simp only [copies, Render.flatten_filledStretches, eachCopies]
  | loop =>
    cases LoopTarget.ofText block.target with
    | range first last => simp only [copies, Text.flatten_replacedStretches, rangeCopies]
    | path path => simp only [copies, Text.flatten_replacedStretches, listCopies]

/-- In a value without braces, what an expansion puts together is copied from the body or has
no brace. -/
theorem cases_of_mem_expansionStretches {root : Value} {block : Block} {stretch : Text}
    (free : root.BraceFree) (member : stretch ∈ block.expansionStretches root) :
    stretch <:+: block.body ∨ stretch.isBraceFree := by
  rw [expansionStretches] at member
  split at member
  · obtain ⟨item, itemMember, filled⟩ := List.mem_flatMap.1 member
    exact (free.lookupItems itemMember).cases_of_mem_filledStretches filled
  · split at member
    · obtain ⟨index, -, replaced⟩ := List.mem_flatMap.1 member
      rcases Text.mem_replacedStretches replaced with kept | rfl
      · exact Or.inl kept
      · exact Or.inr (Integer.isBraceFree_print index)
    · obtain ⟨content, listed, replaced⟩ := List.mem_flatMap.1 member
      obtain ⟨item, itemMember, isText⟩ := List.mem_filterMap.1 listed
      rcases Text.mem_replacedStretches replaced with kept | rfl
      · exact Or.inl kept
      · exact Or.inr ((free.lookupItems itemMember).of_text? isText)

end Block

namespace Render

/-- What expanding the blocks of a kind puts together, where the text begins at an offset. -/
def expandedStretchesFrom (kind : BlockKind) (root : Value) (offset : Nat) (text : Text) :
    List Text :=
  Edit.stretchesFrom offset text ((Block.scanFrom kind offset text).blocks.map fun block =>
    (block.span, block.expansionStretches root))

/-- What expanding the blocks of a kind puts together. -/
def expandedStretches (kind : BlockKind) (root : Value) (text : Text) : List Text :=
  expandedStretchesFrom kind root 0 text

theorem flatten_expandedStretches (kind : BlockKind) (root : Value) (text : Text) :
    (expandedStretches kind root text).flatten = expand kind root text := by
  rw [expandedStretches, expandedStretchesFrom, Edit.flatten_stretchesFrom, List.map_map, expand]
  simp only [Function.comp_def, Block.flatten_expansionStretches]
  rfl

theorem mem_expandedStretches {kind : BlockKind} {root : Value} {text stretch : Text}
    (member : stretch ∈ expandedStretches kind root text) :
    stretch <:+: text ∨
      ∃ block ∈ (Block.scan kind text).blocks, stretch ∈ block.expansionStretches root := by
  rcases Edit.mem_stretchesFrom member with kept | ⟨change, listed, inserted⟩
  · exact Or.inl kept
  · obtain ⟨block, found, rfl⟩ := List.mem_map.1 listed
    exact Or.inr ⟨block, found, inserted⟩

/-- Where no opener is left over, the text between the blocks holds none: a stretch with an
opener belongs to an expansion. -/
theorem mem_expandedStretchesFrom_of_opener {kind : BlockKind} {root : Value} {offset : Nat}
    {text stretch : Text} (closed : (Block.scanFrom kind offset text).unclosed = none)
    (member : stretch ∈ expandedStretchesFrom kind root offset text)
    (opens : kind.opener <:+: stretch) :
    ∃ block ∈ (Block.scanFrom kind offset text).blocks,
      stretch ∈ block.expansionStretches root := by
  fun_induction Block.scanFrom kind offset text with
  | case1 offset text absent =>
    rw [expandedStretchesFrom, Block.scanFrom_of_no_opener absent] at member
    obtain rfl := List.mem_singleton.1 member
    exact absurd opens (Text.cut?_eq_none_iff.1 absent)
  | case2 offset text before inside opened start unclosed => contradiction
  | case3 offset text before inside opened start target body rest found stop later
      inductionHypothesis =>
    rw [expandedStretchesFrom, Block.scanFrom_of_closed opened found, List.map_cons,
      Block.eq_append_of_closed opened found, Edit.stretchesFrom_cons rfl rfl] at member
    rcases List.mem_cons.1 member with rfl | member
    · exact absurd opens (Text.not_infix_of_cut? kind.opener_ne_nil opened)
    · rcases List.mem_append.1 member with expanded | behind
      · exact ⟨_, List.mem_cons_self, expanded⟩
      · obtain ⟨block, listed, expanded⟩ := inductionHypothesis closed behind
        exact ⟨block, List.mem_cons_of_mem _ listed, expanded⟩

end Render

end Stencil
