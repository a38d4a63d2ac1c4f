/-
This file proves what a well-formed template means. Expanding the blocks of one kind
unrolls these blocks into pieces and leaves the other parts as they are, so what a pass
writes is the text of a well-formed template again and the next pass finds the markers
that were meant. After both passes over blocks only pieces are left, and these are filled
one by one.
-/

import Stencil.Proofs.Template.Pieces

namespace Stencil

/-! ### Unrolling blocks -/

namespace Part

/-- What a block does to a piece of its body, once for every time that the body is repeated. -/
def passes (root : Value) (target : Text) : BlockKind → List (Piece → Piece)
  | .each => ((root.lookupItems target.trim).getD []).map Piece.resolve
  | .loop =>
    match LoopTarget.ofText target with
    | .range first last =>
      (LoopTarget.integers first last).map fun index =>
        Piece.substitute indexToken (Integer.print index)
    | .path path =>
      (((root.lookupItems path).getD []).filterMap Value.text?).map (Piece.substitute itemToken)

/-- The pieces that a part becomes when it is expanded. -/
def pieces (root : Value) : Part → List Piece
  | piece inner => [inner]
  | block kind target body => (passes root target kind).flatMap body.map

/-- A block of the kind as the pieces that it becomes, and every other part as it is. -/
def unroll (kind : BlockKind) (root : Value) : Part → Template
  | piece inner => [piece inner]
  | block other target body =>
    if other = kind then (pieces root (block other target body)).map piece
    else [block other target body]

theorem isWellFormed_block {kind : BlockKind} {target : Text} {body : List Piece}
    (wellFormed : (block kind target body).isWellFormed) :
    target.isBraceFree ∧ ∀ piece ∈ body, piece.isWellFormed := by
  simpa [isWellFormed] using wellFormed

/-- What a block puts into its body has no braces. -/
theorem isWellFormed_of_mem_passes {root : Value} (free : root.BraceFree) {kind : BlockKind}
    {target : Text} {pass : Piece → Piece} (member : pass ∈ passes root target kind)
    {piece : Piece} (wellFormed : piece.isWellFormed) : (pass piece).isWellFormed := by
  cases kind with
  | each =>
    obtain ⟨item, itemMember, rfl⟩ := List.mem_map.1 member
    exact Piece.isWellFormed_resolve (free.lookupItems itemMember) wellFormed
  | loop =>
    rw [passes] at member
    split at member
    · obtain ⟨index, -, rfl⟩ := List.mem_map.1 member
      exact Piece.isWellFormed_substitute (Integer.isBraceFree_print index) wellFormed
    · obtain ⟨content, contentMember, rfl⟩ := List.mem_map.1 member
      obtain ⟨item, itemMember, isText⟩ := List.mem_filterMap.1 contentMember
      have itemFree : item.BraceFree := free.lookupItems itemMember
      exact Piece.isWellFormed_substitute (itemFree.of_text? isText) wellFormed

theorem isWellFormed_of_mem_pieces {root : Value} (free : root.BraceFree) {part : Part}
    (wellFormed : part.isWellFormed) {inner : Piece} (member : inner ∈ part.pieces root) :
    inner.isWellFormed := by
  cases part with
  | piece only =>
    obtain rfl := List.mem_singleton.1 member
    exact wellFormed
  | block kind target body =>
    obtain ⟨pass, passMember, innerMember⟩ := List.mem_flatMap.1 member
    obtain ⟨origin, originMember, rfl⟩ := List.mem_map.1 innerMember
    have originWellFormed := (isWellFormed_block wellFormed).2 origin originMember
    exact isWellFormed_of_mem_passes free passMember originWellFormed

/-- The pieces of a part, filled from the root, are what the part means. -/
theorem flatMap_fill_pieces (root : Value) (part : Part) :
    (part.pieces root).flatMap (Piece.fill [root]) = part.fill root := by
  cases part with
  | piece inner => exact List.append_nil _
  | block kind target body =>
    simp only [pieces, List.flatMap_assoc, List.flatMap_map]
    cases kind with
    | each => simp only [passes, fill, List.flatMap_map, Piece.fill_resolve]
    | loop =>
      cases parsed : LoopTarget.ofText target <;>
        simp only [passes, fill, parsed, List.flatMap_map, Piece.fill_substitute]

/-- The expansion of a written block is the text of its pieces. -/
theorem expansion_eq_flatMap_written (root : Value) {kind : BlockKind} {target : Text}
    {body : List Piece} (wellFormed : ∀ piece ∈ body, piece.isWellFormed) (span : Span) :
    Block.expansion root ⟨kind, target, body.flatMap Piece.written, span⟩ =
      ((block kind target body).pieces root).flatMap Piece.written := by
  simp only [pieces, List.flatMap_assoc]
  cases kind with
  | each =>
    simp only [Block.expansion, Block.eachCopies, Block.path, passes, List.flatMap_map,
      Piece.interpolate_flatMap_written _ wellFormed, Piece.written_resolve]
  | loop =>
    have indexFree : Text.isBraceFree " index ".toList := by decide
    have itemFree : Text.isBraceFree " item ".toList := by decide
    cases parsed : LoopTarget.ofText target with
    | range first last =>
      simp only [Block.expansion, Block.rangeCopies, passes, parsed, List.flatMap_map, indexToken,
        Piece.replaceAll_flatMap_written indexFree _ wellFormed]
    | path path =>
      simp only [Block.expansion, Block.listCopies, passes, parsed, List.flatMap_map, itemToken,
        Piece.replaceAll_flatMap_written itemFree _ wellFormed]

theorem isWellFormed_unroll {root : Value} (free : root.BraceFree) (kind : BlockKind) {part : Part}
    (wellFormed : part.isWellFormed) : (part.unroll kind root).isWellFormed := by
  cases part with
  | piece inner => simpa [unroll, Template.isWellFormed] using wellFormed
  | block other target body =>
    rw [unroll]
    split
    · refine List.all_eq_true.2 fun part member => ?_
      obtain ⟨inner, innerMember, rfl⟩ := List.mem_map.1 member
      exact isWellFormed_of_mem_pieces free wellFormed innerMember
    · simpa [Template.isWellFormed] using wellFormed

/-- Unrolling both kinds of blocks leaves only pieces. -/
theorem flatMap_unroll_unroll (root : Value) (part : Part) :
    (part.unroll .each root).flatMap (unroll .loop root) = (part.pieces root).map piece := by
  have still (inners : List Piece) :
      (inners.map piece).flatMap (unroll .loop root) = inners.map piece := by
    rw [List.flatMap_map]
    exact List.map_eq_flatMap.symm
  cases part with
  | piece inner => rfl
  | block kind target body =>
    cases kind with
    | each => exact still _
    | loop => exact List.append_nil _

end Part

/-! ### Expanding a written template -/

/-- A search for the opener of one kind passes over the tags of the other. -/
theorem BlockKind.skips_opener {kind other : BlockKind} (differ : other ≠ kind) (after : Text) :
    Text.Skips kind.opener other.opener after := by
  cases kind <;> cases other <;> simp [BlockKind.opener, Text.Skips] at differ ⊢

theorem BlockKind.skips_closer (kind other : BlockKind) (after : Text) :
    Text.Skips kind.opener other.closer after := by
  cases kind <;> cases other <;> simp [BlockKind.opener, BlockKind.closer, Text.Skips]

namespace Part

theorem skips_opener_body {body : List Piece} (wellFormed : ∀ piece ∈ body, piece.isWellFormed)
    (kind : BlockKind) (after : Text) :
    Text.Skips kind.opener (body.flatMap Piece.written) after := by
  cases kind <;> exact Piece.skips_tag_flatMap wellFormed _ after

theorem skips_closer_body {body : List Piece} (wellFormed : ∀ piece ∈ body, piece.isWellFormed)
    (kind : BlockKind) (after : Text) :
    Text.Skips kind.closer (body.flatMap Piece.written) after := by
  cases kind <;> exact Piece.skips_tag_flatMap wellFormed _ after

/-- A search for the opener of one kind passes over a block of the other. -/
theorem skips_opener_block {kind other : BlockKind} {target : Text} {body : List Piece}
    (wellFormed : (block other target body).isWellFormed) (differ : other ≠ kind) (after : Text) :
    Text.Skips kind.opener (block other target body).written after := by
  obtain ⟨targetFree, bodyWellFormed⟩ := isWellFormed_block wellFormed
  have targetSkips (after : Text) : Text.Skips kind.opener target after := by
    cases kind <;> exact Text.skips_of_isBraceFree targetFree after
  have bracesSkips (after : Text) : Text.Skips kind.opener closeBraces after := by
    cases kind <;> exact Text.skips_of_not_mem (by decide)
  simp only [written, Block.written, Text.skips_append]
  exact ⟨⟨⟨⟨BlockKind.skips_opener differ _, targetSkips _⟩, bracesSkips _⟩,
    skips_opener_body bodyWellFormed kind _⟩, BlockKind.skips_closer kind other after⟩

end Part

namespace Template

theorem written_singleton (part : Part) : written [part] = part.written :=
  List.append_nil _

theorem expand_part (kind : BlockKind) (root : Value) {part : Part} (wellFormed : part.isWellFormed)
    (after : Text) : Render.expand kind root (part.written ++ after) =
      written (part.unroll kind root) ++ Render.expand kind root after := by
  cases part with
  | piece inner =>
    have skips : Text.Skips kind.opener inner.written after := by
      cases kind <;> exact Piece.skips_tag wellFormed _ after
    rw [Part.unroll, written_singleton]
    exact Render.expand_append root skips
  | block other target body =>
    by_cases same : other = kind
    · subst same
      obtain ⟨targetFree, bodyWellFormed⟩ := Part.isWellFormed_block wellFormed
      rw [Part.unroll, if_pos rfl, Part.written,
        Render.expand_written_append root (Text.skips_closeBraces targetFree _)
          (Part.skips_closer_body bodyWellFormed other _) ⟨0, 0⟩,
        Part.expansion_eq_flatMap_written root bodyWellFormed, written, List.flatMap_map]
      rfl
    · rw [Part.unroll, if_neg same, written_singleton]
      exact Render.expand_append root (Part.skips_opener_block wellFormed same after)

/-- Expanding the blocks of one kind unrolls them. -/
theorem expand_written (kind : BlockKind) (root : Value) {template : Template}
    (wellFormed : template.isWellFormed) : Render.expand kind root template.written =
      written (template.flatMap (Part.unroll kind root)) := by
  induction template with
  | nil => exact Render.expand_of_no_opener root (by cases kind <;> rfl)
  | cons part rest inductionHypothesis =>
    obtain ⟨partWellFormed, restWellFormed⟩ : part.isWellFormed ∧ isWellFormed rest := by
      simpa [isWellFormed] using wellFormed
    rw [written_cons, expand_part kind root partWellFormed, inductionHypothesis restWellFormed,
      List.flatMap_cons, written_append]

theorem isWellFormed_flatMap_unroll {root : Value} (free : root.BraceFree) (kind : BlockKind)
    {template : Template} (wellFormed : template.isWellFormed) :
    isWellFormed (template.flatMap (Part.unroll kind root)) := by
  refine List.all_eq_true.2 fun unrolled member => ?_
  obtain ⟨part, partMember, unrolledMember⟩ := List.mem_flatMap.1 member
  have partWellFormed := List.all_eq_true.1 wellFormed part partMember
  exact List.all_eq_true.1 (Part.isWellFormed_unroll free kind partWellFormed) unrolled
    unrolledMember

/-- After the passes over blocks the text is that of the pieces. -/
theorem afterBlocks_written {root : Value} (free : root.BraceFree) {template : Template}
    (wellFormed : template.isWellFormed) : Render.afterBlocks root template.written =
      (template.flatMap (Part.pieces root)).flatMap Piece.written := by
  rw [Render.afterBlocks, Render.afterEach, expand_written .each root wellFormed,
    expand_written .loop root (isWellFormed_flatMap_unroll free .each wellFormed), written]
  simp only [List.flatMap_assoc]
  congr 1
  funext part
  rw [← List.flatMap_assoc, Part.flatMap_unroll_unroll, List.flatMap_map]
  rfl

end Template

/-- A well-formed template that is written as text and rendered gives what it means: nothing that
a pass puts into the text is taken for a marker, and every marker is filled as it was meant. -/
theorem render_written {root : Value} (free : root.BraceFree) {template : Template}
    (wellFormed : template.isWellFormed) :
    (render root template.written).output = template.fill root := by
  have piecesWellFormed : ∀ piece ∈ template.flatMap (Part.pieces root), piece.isWellFormed := by
    intro piece member
    obtain ⟨part, partMember, pieceMember⟩ := List.mem_flatMap.1 member
    have partWellFormed := List.all_eq_true.1 wellFormed part partMember
    exact Part.isWellFormed_of_mem_pieces free partWellFormed pieceMember
  calc (render root template.written).output
      = Render.interpolate root (Render.afterBlocks root template.written) := rfl
    _ = (template.flatMap (Part.pieces root)).flatMap (Piece.fill [root]) := by
        rw [Template.afterBlocks_written free wellFormed,
          Piece.interpolate_flatMap_written root piecesWellFormed]
    _ = template.flatMap (Part.fill root) := by
        simp only [List.flatMap_assoc, Part.flatMap_fill_pieces]

/-- A greeting, a list of records and texts, a range, and the texts of the same list. -/
theorem render_written_greeting :
    (render
      (.record [("name".toList, .text "Ada".toList),
        ("rows".toList, .list [.record [("name".toList, .text "Bo".toList)], .text "x".toList])])
      (Template.written [.piece (.literal "Hi ".toList), .piece (.placeholder " name ".toList),
        .piece (.placeholder "none".toList),
        .block .each " rows ".toList [.literal "/".toList, .placeholder "name".toList],
        .block .loop " -1...1 ".toList [.placeholder " index ".toList, .literal ",".toList],
        .block .loop "rows".toList [.placeholder " item ".toList, .placeholder "name".toList]])
      ).output = "Hi Ada".toList ++ Placeholder.written "none".toList ++
        "/Bo/Ada-1,0,1,xAda".toList := by
  have nameFree : Value.BraceFree (.text "Ada".toList) := .text (by decide)
  have recordFree : Value.BraceFree (.record [("name".toList, .text "Bo".toList)]) :=
    .record (List.forall_mem_singleton.2 (.text (by decide)))
  have rowsFree : Value.BraceFree
      (.list [.record [("name".toList, .text "Bo".toList)], .text "x".toList]) :=
    .list (List.forall_mem_cons.2 ⟨recordFree, List.forall_mem_singleton.2 (.text (by decide))⟩)
  refine (render_written (.record ?_) (by decide)).trans (by decide +kernel)
  exact List.forall_mem_cons.2 ⟨nameFree, List.forall_mem_singleton.2 rowsFree⟩
end Stencil
