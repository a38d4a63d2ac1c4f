/-
This file says what a pass makes of a block that stands in a text. The text around the
block may hold anything but an opener of the kind in front of it: parts of tags that meet
the tags of the block do not join them, since no tag ends as it begins. So the pass copies
the text in front, puts the expansion in the place of the block, and finds behind it what
it would find in that text alone, moved by the place where the text begins. At an opener
that nothing closes the pass ends, and the text from there on is copied.
-/

import Stencil.Proofs.Render.Reports
import Stencil.Proofs.Render.Stretches

namespace Stencil

/-! ### Tags that meet other text -/

theorem BlockKind.unbordered_opener (kind : BlockKind) : Text.Unbordered kind.opener := by
  unfold Text.Unbordered
  cases kind <;> decide

theorem BlockKind.unbordered_closer (kind : BlockKind) : Text.Unbordered kind.closer := by
  unfold Text.Unbordered
  cases kind <;> decide

/-- Closing braces that begin in front of closing braces need a brace at the end there. -/
theorem Text.skips_closeBraces_of_not_infix {target : Text}
    (absent : ¬ closeBraces <:+: target) (ends : target.getLast? ≠ some '}') :
    Skips closeBraces target closeBraces := by
  refine skips_of_not_infix absent fun count bound positive _ endsSo => ends ?_
  obtain rfl : count = 1 := by
    have length : closeBraces.length = 2 := rfl
    omega
  obtain ⟨front, rfl⟩ := endsSo
  exact List.getLast?_concat

/-! ### A block that is written in a text -/

namespace Block

/-- A target and a body can be those of a block: the closing braces behind the target are the
first ones there, and so is the closer behind the body. -/
structure IsContents (kind : BlockKind) (target body : Text) : Prop where
  target_skips : Text.Skips closeBraces target closeBraces
  body_skips : Text.Skips kind.closer body kind.closer

/-- What is cut off behind an opener depends on what is written there alone. -/
theorem contents?_eq_some_iff_isContents {kind : BlockKind} {inside target body rest : Text} :
    contents? kind inside = some (target, body, rest) ↔
      inside = target ++ (closeBraces ++ (body ++ (kind.closer ++ rest))) ∧
        IsContents kind target body := by
  rw [contents?_eq_some_iff]
  constructor
  · rintro ⟨afterTarget, targetFound, bodyFound⟩
    have targetSkips := Text.skips_append_right_iff.1 (Text.skips_of_cut? targetFound)
    have bodySkips := Text.skips_append_right_iff.1 (Text.skips_of_cut? bodyFound)
    refine ⟨?_, targetSkips, bodySkips⟩
    rw [Text.eq_append_of_cut? targetFound, Text.eq_append_of_cut? bodyFound]
    simp only [List.append_assoc]
  · rintro ⟨rfl, targetSkips, bodySkips⟩
    refine ⟨body ++ (kind.closer ++ rest), ?_, ?_⟩
    · exact Text.cut?_of_skips (by decide) (Text.skips_append_right_iff.2 targetSkips)
    · exact Text.cut?_of_skips kind.closer_ne_nil (Text.skips_append_right_iff.2 bodySkips)

/-- A block that is written behind a text without its opener is the first one that is read. -/
theorem exists_opened_and_closed {kind : BlockKind} {before target body : Text}
    (skips : Text.Skips kind.opener before kind.opener) (isContents : IsContents kind target body)
    (after : Text) :
    ∃ inside,
      Text.cut? kind.opener (before ++ (written kind target body ++ after)) =
        some (before, inside) ∧
      contents? kind inside = some (target, body, after) := by
  have whole : written kind target body ++ after =
      kind.opener ++ (target ++ (closeBraces ++ (body ++ (kind.closer ++ after)))) := by
    simp only [written, List.append_assoc]
  refine ⟨_, ?_, contents?_eq_some_iff_isContents.2 ⟨rfl, isContents⟩⟩
  rw [whole]
  exact Text.cut?_of_skips kind.opener_ne_nil (Text.skips_append_right_iff.2 skips)

end Block

/-! ### Scanning behind a block -/

/-- A span further on. -/
def Span.shift (distance : Nat) (span : Span) : Span :=
  ⟨span.start + distance, span.stop + distance⟩

/-- A block further on. -/
def Block.shift (distance : Nat) (block : Block) : Block :=
  { block with span := block.span.shift distance }

/-- An opener further on. -/
def Unclosed.shift (distance : Nat) (unclosed : Unclosed) : Unclosed :=
  { unclosed with offset := unclosed.offset + distance }

/-- What a scan finds further on. -/
def BlockScan.shift (distance : Nat) (found : BlockScan) : BlockScan :=
  ⟨found.blocks.map (Block.shift distance), found.unclosed.map (Unclosed.shift distance)⟩

namespace Block

/-- Where a text begins moves what is found in it, and does nothing else. -/
theorem scanFrom_add (kind : BlockKind) (offset distance : Nat) (text : Text) :
    scanFrom kind (offset + distance) text = (scanFrom kind offset text).shift distance := by
  fun_induction scanFrom kind offset text with
  | case1 offset text absent =>
    rw [scanFrom_of_no_opener absent]
    rfl
  | case2 offset text before inside opened start unclosed =>
    rw [scanFrom_of_unclosed opened unclosed, Nat.add_right_comm]
    rfl
  | case3 offset text before inside opened start target body rest closed stop later
      inductionHypothesis =>
    have starts : offset + distance + before.size = start + distance := Nat.add_right_comm _ _ _
    have stops : start + distance + (written kind target body).size = stop + distance :=
      Nat.add_right_comm _ _ _
    rw [scanFrom_of_closed opened closed]
    simp only [starts, stops, inductionHypothesis]
    rfl

/-- A written block is found where it stands, and behind it everything that is found in the text
behind it alone. -/
theorem scan_around {kind : BlockKind} {before target body : Text}
    (skips : Text.Skips kind.opener before kind.opener) (isContents : IsContents kind target body)
    (after : Text) :
    scan kind (before ++ (written kind target body ++ after)) =
      let stop := before.size + (written kind target body).size
      let later := (scan kind after).shift stop
      ⟨⟨kind, target, body, ⟨before.size, stop⟩⟩ :: later.blocks, later.unclosed⟩ := by
  obtain ⟨inside, opened, closed⟩ := exists_opened_and_closed skips isContents after
  rw [scan, scanFrom_of_closed opened closed, scan]
  simp only [Nat.zero_add]
  rw [← scanFrom_add, Nat.zero_add]

end Block

/-! ### What a block gives way to -/

theorem Value.lookupItems_eq_some_iff {root : Value} {path : Text} {items : List Value} :
    root.lookupItems path = some items ↔ root.lookup path = some (.list items) := by
  rw [lookupItems, Option.bind_eq_some_iff]
  constructor
  · rintro ⟨value, found, isList⟩
    cases value with
    | list others =>
      obtain rfl := Option.some.inj isList
      exact found
    | text content => contradiction
    | record fields => contradiction
  · intro found
    exact ⟨_, found, rfl⟩

namespace Block

/-- The path of the list that a block runs over; none when it runs over a range. -/
def listPath? (block : Block) : Option Text :=
  match block.kind with
  | .each => some block.path
  | .loop =>
    match LoopTarget.ofText block.target with
    | .range _ _ => none
    | .path path => some path

/-- A text and reports say of a block what the value has where its target leads: the copies of
the body for the items or for the texts of a list, or nothing. -/
structure Unfolds (root : Value) (block : Block) (new : Text) (reports : List Warning) : Prop where
  each_list : block.kind = .each →
    ∀ items, root.lookup block.target.trim = some (.list items) →
      new = items.flatMap fun item => ((Scope.ofItem item).interpolate block.body).1
  loop_list : block.kind = .loop → ∀ path, LoopTarget.ofText block.target = .path path →
    ∀ items, root.lookup path = some (.list items) →
      new = (items.filterMap Value.text?).flatMap
          (fun content => Text.replaceAll itemToken content block.body) ∧
        ∀ index item, items[index]? = some item → item.text? = none →
          .skippedItem path index item.shape ∈ reports
  loop_range : block.kind = .loop →
    ∀ first last, LoopTarget.ofText block.target = .range first last →
      new = (LoopTarget.integers first last).flatMap
        fun index => Text.replaceAll indexToken (Integer.print index) block.body
  no_list : ∀ path, block.listPath? = some path →
    (∀ items, root.lookup path ≠ some (.list items)) →
      new = [] ∧ .notAList block.kind path (Shape.ofOption (root.lookup path)) ∈ reports

section

variable {root : Value} {block : Block} {path : Text}

theorem listPath?_eq_some_iff : block.listPath? = some path ↔
    (block.kind = .each ∧ block.path = path) ∨
      (block.kind = .loop ∧ LoopTarget.ofText block.target = .path path) := by
  rw [listPath?]
  cases block.kind with
  | each => simp
  | loop => cases LoopTarget.ofText block.target <;> simp

/-- A block whose target leads to no list gives way to nothing. -/
theorem expansion_eq_nil (runsOver : block.listPath? = some path)
    (noList : root.lookupItems path = none) : block.expansion root = [] := by
  rcases listPath?_eq_some_iff.1 runsOver with ⟨kind, rfl⟩ | ⟨kind, target⟩
  · simp only [expansion, kind, noList]
    rfl
  · simp only [expansion, kind, target, noList]
    rfl

/-- A block whose target leads to no list is reported for what is found there. -/
theorem notAList_mem_warnings (runsOver : block.listPath? = some path)
    (noList : ∀ items, root.lookup path ≠ some (.list items)) :
    .notAList block.kind path (Shape.ofOption (root.lookup path)) ∈ block.warnings root := by
  have reported : ∀ kind ofItems, listWarnings root kind path ofItems =
      [.notAList kind path (Shape.ofOption (root.lookup path))] := by
    intro kind ofItems
    rw [listWarnings]
    split
    · rename_i items found
      exact absurd found (noList items)
    · rfl
  refine List.mem_append_right _ ?_
  rcases listPath?_eq_some_iff.1 runsOver with ⟨kind, rfl⟩ | ⟨kind, target⟩
  · simp only [kind, reported, List.mem_singleton]
  · simp only [kind, target, reported, List.mem_singleton]

/-- An item that is no text is reported with its place in the list. -/
theorem skippedItem_mem_skippedWarnings {items : List Value} {index : Nat} {item : Value}
    (listed : items[index]? = some item) (noText : item.text? = none) :
    .skippedItem path index item.shape ∈ skippedWarnings path items := by
  refine List.mem_filterMap.2 ⟨(item, index), List.mem_zipIdx_iff_getElem?.2 listed, ?_⟩
  cases item with
  | text content => contradiction
  | list items => rfl
  | record fields => rfl

/-- What takes the place of a block and what is reported of it unfold the block. -/
theorem unfolds_expansion {reports : List Warning}
    (reported : ∀ warning ∈ block.warnings root, warning ∈ reports) :
    block.Unfolds root (block.expansion root) reports where
  each_list := by
    intro kind items found
    have itemsFound : root.lookupItems block.path = some items :=
      Value.lookupItems_eq_some_iff.2 found
    simp only [expansion, kind, itemsFound, Option.getD_some]
    rfl
  loop_list := by
    intro kind path target items found
    have itemsFound := Value.lookupItems_eq_some_iff.2 found
    refine ⟨?_, fun index item listed noText => reported _ (List.mem_append_right _ ?_)⟩
    · simp only [expansion, kind, target, itemsFound, Option.getD_some]
      rfl
    · simp only [kind, target, listWarnings, found]
      exact skippedItem_mem_skippedWarnings listed noText
  loop_range := by
    intro kind first last target
    simp only [expansion, kind, target]
    rfl
  no_list := by
    intro path runsOver noList
    refine ⟨expansion_eq_nil runsOver ?_, reported _ (notAList_mem_warnings runsOver noList)⟩
    refine Option.eq_none_iff_forall_ne_some.2 fun items found => ?_
    exact noList items (Value.lookupItems_eq_some_iff.1 found)

end

end Block

/-! ### The pass around a block -/

namespace Render

/-- At an opener that nothing closes a pass divides the text: what stands in front is expanded as
if it stood alone, and the rest is copied. -/
theorem exists_expand_eq_of_unclosed {kind : BlockKind} (root : Value) {offset : Nat} {text : Text}
    {unclosed : Unclosed} (left : (Block.scanFrom kind offset text).unclosed = some unclosed) :
    ∃ front rest, text = front ++ rest ∧ unclosed = ⟨kind, offset + front.size⟩ ∧
      expand kind root text = expand kind root front ++ rest := by
  fun_induction Block.scanFrom kind offset text with
  | case1 => contradiction
  | case2 offset text before inside opened start incomplete =>
    have absent : Text.cut? kind.opener before = none :=
      Text.cut?_eq_none_iff.2 (Text.not_infix_of_cut? kind.opener_ne_nil opened)
    have whole : text = before ++ (kind.opener ++ inside) := by
      rw [Text.eq_append_of_cut? opened, List.append_assoc]
    refine ⟨before, kind.opener ++ inside, whole, (Option.some.inj left).symm, ?_⟩
    rw [expand_of_unclosed root opened incomplete, expand_of_no_opener root absent]
    exact whole
  | case3 offset text before inside opened start target body later closed stop found
      inductionHypothesis =>
    obtain ⟨front, rest, rfl, rfl, expanded⟩ := inductionHypothesis left
    have skips := Text.skips_append_right_iff.1 (Text.skips_of_cut? opened)
    have isContents := (Block.contents?_eq_some_iff_isContents.1 closed).2
    obtain ⟨_, openedInFront, closedInFront⟩ :=
      Block.exists_opened_and_closed skips isContents front
    refine ⟨before ++ (Block.written kind target body ++ front), rest, ?_, ?_, ?_⟩
    · rw [Block.eq_append_of_closed opened closed]
      simp only [List.append_assoc]
    · simp only [stop, start, Text.size_append, Nat.add_assoc]
    · rw [expand_of_closed root opened closed ⟨0, 0⟩,
        expand_of_closed root openedInFront closedInFront ⟨0, 0⟩, expanded]
      simp only [List.append_assoc]

end Render

/-- The pass over the blocks of a kind unfolds along the text. Around a block it copies the text in
front, puts in the place of the block what its target leads to, and goes on as in the text behind
the block alone, where it finds the same further on. From an opener that nothing closes on it
copies the text. -/
theorem expand_unfolds (kind : BlockKind) (scope : Scope) :
    (∀ before target body after : Text, ¬ kind.opener <:+: before → ¬ closeBraces <:+: target →
      target.getLast? ≠ some '}' → ¬ kind.closer <:+: body →
      let whole := before ++ (Block.written kind target body ++ after)
      let stop := before.size + (Block.written kind target body).size
      let block : Block := ⟨kind, target, body, ⟨before.size, stop⟩⟩
      let later := (Block.scan kind after).shift stop
      Block.scan kind whole = ⟨block :: later.blocks, later.unclosed⟩ ∧
      ∃ new, (scope.expand kind whole).1 = before ++ (new ++ (scope.expand kind after).1) ∧
        block.Unfolds scope.root new (scope.expand kind whole).2.warnings) ∧
    ∀ text unclosed, (Block.scan kind text).unclosed = some unclosed →
      ∃ front rest, text = front ++ rest ∧ front.size = unclosed.offset ∧
        (scope.expand kind text).1 = (scope.expand kind front).1 ++ rest ∧
        .unclosedBlock kind unclosed.offset ∈ (scope.expand kind text).2.warnings := by
  refine ⟨fun before target body after noOpener noBraces ends noCloser => ?_,
    fun text unclosed left => ?_⟩
  · have skips := kind.unbordered_opener.skips noOpener
    have isContents : Block.IsContents kind target body :=
      ⟨Text.skips_closeBraces_of_not_infix noBraces ends, kind.unbordered_closer.skips noCloser⟩
    have scanned := Block.scan_around skips isContents after
    obtain ⟨inside, opened, closed⟩ := Block.exists_opened_and_closed skips isContents after
    refine ⟨scanned, _, ?_, Block.unfolds_expansion fun warning reported => ?_⟩
    · exact (Render.expand_of_closed scope.root opened closed _).trans (List.append_assoc _ _ _)
    · refine Scope.mem_warnings_warnAll.2 (Or.inr (List.mem_append_right _ ?_))
      rw [Render.blockWarnings, scanned]
      exact List.mem_append_left _ reported
  · obtain ⟨front, rest, whole, rfl, expanded⟩ :=
      Render.exists_expand_eq_of_unclosed scope.root left
    refine ⟨front, rest, whole, (Nat.zero_add _).symm, expanded, ?_⟩
    refine Scope.mem_warnings_warnAll.2 (Or.inr (List.mem_append_left _ ?_))
    exact Render.mem_unclosedWarnings.2 ⟨_, left, rfl⟩

/-- Between two braces that meet its tags a block gives way to the text of its list and reports the
item that is none. An opener that nothing closes stays behind a text. -/
theorem expand_unfolds_braces :
    let scope := Scope.ofRoot (.record [(['r'], .list [.text ['a'], .list []])])
    let whole := ['{'] ++ (Block.written .loop ['r'] itemToken ++ ['}'])
    let left := ['a'] ++ BlockKind.opener .loop
    (scope.expand .loop whole).1 = ['{', 'a', '}'] ∧
      .skippedItem ['r'] 1 .list ∈ (scope.expand .loop whole).2.warnings ∧
      (scope.expand .loop left).1 = left ∧
      .unclosedBlock .loop 1 ∈ (scope.expand .loop left).2.warnings := by
  intro scope whole left
  obtain ⟨around, behind⟩ := expand_unfolds .loop scope
  obtain ⟨-, new, output, unfolds⟩ :=
    around ['{'] ['r'] itemToken ['}'] (by decide) (by decide) (by decide) (by decide +kernel)
  obtain ⟨copies, skipped⟩ := unfolds.loop_list rfl ['r'] (by decide +kernel) _ rfl
  obtain ⟨front, rest, divided, size, kept, reported⟩ := behind left ⟨.loop, 1⟩ (by decide +kernel)
  refine ⟨?_, skipped 1 _ rfl rfl, ?_, reported⟩
  · rw [output, copies]
    decide +kernel
  · obtain ⟨rfl, rfl⟩ := Text.append_inj_of_size_eq divided.symm size
    rw [kept]
    decide +kernel

end Stencil
