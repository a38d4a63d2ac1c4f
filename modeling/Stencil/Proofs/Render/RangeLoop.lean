/-
This file says what a `for` block over a range becomes. Its integers are those that a counter
of one machine word gives: the counter goes on while the last integer lies ahead, and once it
has given that one it is spent, so it never adds one to the greatest integer. The bounds may be
any two words, spelled as the integers in the copies are; what the body holds between the tokens
stands in every copy, and nothing is reported but an opener within the body.
-/

import Stencil.Proofs.Marker.RangeTarget
import Stencil.Proofs.Render.BlockInText

namespace Stencil

/-! ### The integers of a range -/

namespace LoopTarget

theorem integers_of_lt {first last : Int} (descending : last < first) :
    integers first last = [] := by
  have count : (last - first + 1).toNat = 0 := by omega
  rw [integers, count]
  rfl

theorem integers_of_le {first last : Int} (ascending : first ≤ last) :
    integers first last = first :: integers (first + 1) last := by
  have count : (last - first + 1).toNat = (last - (first + 1) + 1).toNat + 1 := by omega
  rw [integers, integers, count, List.range_succ_eq_map, List.map_cons, List.map_map]
  refine congrArg₂ List.cons (Int.add_zero first) (List.map_congr_left fun step _ => ?_)
  simp only [Function.comp_apply, Int.ofNat_eq_natCast, Nat.succ_eq_add_one, Int.natCast_add,
    Int.natCast_one, Int.add_assoc, Int.add_comm 1]

theorem length_integers (first last : Int) :
    (integers first last).length = (last - first + 1).toNat := by
  rw [integers, List.length_map, List.length_range]

theorem eq_add_of_integers_getElem? {first last value : Int} {index : Nat}
    (listed : (integers first last)[index]? = some value) : value = first + index := by
  rw [integers, List.getElem?_map] at listed
  obtain ⟨step, stands, rfl⟩ := Option.map_eq_some_iff.1 listed
  obtain ⟨-, rfl⟩ := List.getElem?_eq_some_iff.1 stands
  rw [List.getElem_range]
  rfl

end LoopTarget

/-! ### Counting in machine words -/

/-- A counter of one machine word, on its way to a last one. -/
structure WordCounter where
  next : Int64
  last : Int64
  /-- Whether the last word has been given. -/
  spent : Bool
  deriving DecidableEq, Repr

namespace WordCounter

/-- The counter over the words from the first to the last, both included. -/
def ofBounds (first last : Int64) : WordCounter :=
  ⟨first, last, false⟩

/-- The next word, and the counter behind it. At the last word the counter is spent and does not
go on, since there may be no word behind it. -/
def step? (counter : WordCounter) : Option (Int64 × WordCounter) :=
  if counter.spent ∨ counter.last < counter.next then none
  else if counter.next < counter.last then
    some (counter.next, { counter with next := counter.next + 1 })
  else some (counter.next, { counter with spent := true })

/-- A counter gives words, one after the other, until it gives no more. -/
inductive Gives : WordCounter → List Int64 → Prop
  | nothing {counter : WordCounter} (ended : counter.step? = none) : Gives counter []
  | word {counter later : WordCounter} {value : Int64} {values : List Int64}
      (stepped : counter.step? = some (value, later)) (rest : Gives later values) :
      Gives counter (value :: values)

/-- The integers that a counter has not given yet. -/
def remaining (counter : WordCounter) : List Int :=
  if counter.spent then [] else LoopTarget.integers counter.next.toInt counter.last.toInt

variable {counter later : WordCounter} {value : Int64}

theorem toInt_add_one {next last : Int64} (before : next < last) :
    (next + 1).toInt = next.toInt + 1 := by
  have bound := Int64.toInt_lt last
  have least := Int64.le_toInt next
  have ahead := Int64.lt_iff_toInt_lt.1 before
  rw [Int64.toInt_add]
  exact Int.bmod_eq_of_le (by simp; omega) (by simp; omega)

theorem remaining_of_step?_eq_none (stopped : counter.step? = none) :
    counter.remaining = [] := by
  rw [step?] at stopped
  split at stopped
  · rename_i ended
    rw [remaining]
    split
    · rfl
    · rename_i unspent
      exact LoopTarget.integers_of_lt (Int64.lt_iff_toInt_lt.1 (ended.resolve_left unspent))
  · split at stopped <;> contradiction

/-- A step gives the first integer that is left, and leaves the others. -/
theorem remaining_of_step? (stepped : counter.step? = some (value, later)) :
    counter.remaining = value.toInt :: later.remaining := by
  rw [step?] at stepped
  split at stepped
  · contradiction
  · rename_i going
    obtain ⟨unspent, notBeyond⟩ := not_or.1 going
    have bound : counter.next.toInt ≤ counter.last.toInt :=
      Int.not_lt.1 fun beyond => notBeyond (Int64.lt_iff_toInt_lt.2 beyond)
    rw [remaining, if_neg unspent, LoopTarget.integers_of_le bound]
    split at stepped
    · rename_i ahead
      obtain ⟨rfl, rfl⟩ := Prod.mk.inj (Option.some.inj stepped)
      rw [remaining, if_neg unspent, toInt_add_one ahead]
    · rename_i reached
      obtain ⟨rfl, rfl⟩ := Prod.mk.inj (Option.some.inj stepped)
      have behind : counter.last.toInt < counter.next.toInt + 1 :=
        Int.lt_add_one_iff.2 (Int.not_lt.1 fun ahead => reached (Int64.lt_iff_toInt_lt.2 ahead))
      rw [LoopTarget.integers_of_lt behind]
      rfl

/-- The words that a counter gives are the integers that were left. -/
theorem Gives.map_toInt {values : List Int64} (gives : Gives counter values) :
    values.map Int64.toInt = counter.remaining := by
  induction gives with
  | nothing ended => exact (remaining_of_step?_eq_none ended).symm
  | word stepped rest inductionHypothesis =>
    rw [List.map_cons, inductionHypothesis, remaining_of_step? stepped]

/-- Every counter comes to an end. -/
theorem exists_gives (counter : WordCounter) : ∃ values, Gives counter values := by
  induction size : counter.remaining.length generalizing counter with
  | zero =>
    cases stepped : counter.step? with
    | none => exact ⟨[], .nothing stepped⟩
    | some given =>
      rw [remaining_of_step? stepped] at size
      contradiction
  | succ count inductionHypothesis =>
    cases stepped : counter.step? with
    | none => exact ⟨[], .nothing stepped⟩
    | some given =>
      rw [remaining_of_step? stepped, List.length_cons] at size
      obtain ⟨values, rest⟩ := inductionHypothesis given.2 (Nat.succ.inj size)
      exact ⟨_, .word stepped rest⟩

/-- Words begin with a first one and go up one by one until a last one; there are none when the
last one is less. -/
structure RunsThrough (first last : Int64) (values : List Int64) : Prop where
  length_eq : first ≤ last → (values.length : Int) = last.toInt - first.toInt + 1
  eq_nil : last < first → values = []
  toInt_eq : ∀ (index : Nat) value, values[index]? = some value →
    value.toInt = first.toInt + (index : Int)

theorem Gives.runsThrough {first last : Int64} {values : List Int64}
    (gives : Gives (ofBounds first last) values) : RunsThrough first last values := by
  have integers : values.map Int64.toInt = LoopTarget.integers first.toInt last.toInt :=
    gives.map_toInt
  have length : values.length = (last.toInt - first.toInt + 1).toNat := by
    rw [← LoopTarget.length_integers, ← integers, List.length_map]
  refine ⟨fun ascending => ?_, fun descending => ?_, fun index value listed => ?_⟩
  · have bound := Int64.le_iff_toInt_le.1 ascending
    omega
  · have bound := Int64.lt_iff_toInt_lt.1 descending
    exact List.length_eq_zero_iff.1 (by omega)
  · have shown : (LoopTarget.integers first.toInt last.toInt)[index]? = some value.toInt := by
      rw [← integers, List.getElem?_map, listed, Option.map_some]
    exact LoopTarget.eq_add_of_integers_getElem? shown

end WordCounter

/-! ### A body between its tokens -/

/-- A text is divided by a word into pieces that do not hold it, and replacing the word everywhere
puts the new text between the pieces. -/
theorem Text.exists_pieces {word : Text} (nonempty : word ≠ []) (text : Text) :
    ∃ pieces : List Text, pieces ≠ [] ∧ text = word.intercalate pieces ∧
      (∀ piece ∈ pieces, ¬ word <:+: piece) ∧
      ∀ new : Text, replaceAll word new text = new.intercalate pieces := by
  fun_induction replaceAll word [] text with
  | case1 text empty => contradiction
  | case2 text _ absent =>
    refine ⟨[text], List.cons_ne_nil _ _, List.intercalate_singleton.symm, ?_, fun new => ?_⟩
    · intro piece member
      obtain rfl := List.mem_singleton.1 member
      exact cut?_eq_none_iff.1 absent
    · rw [replaceAll_of_cut?_eq_none absent, List.intercalate_singleton]
  | case3 text _ before after found inductionHypothesis =>
    obtain ⟨pieces, someLeft, divided, apart, replaced⟩ := inductionHypothesis
    refine ⟨before :: pieces, List.cons_ne_nil _ _, ?_, ?_, fun new => ?_⟩
    · rw [List.intercalate_cons_of_ne_nil someLeft, ← divided]
      exact eq_append_of_cut? found
    · intro piece member
      rcases List.mem_cons.1 member with rfl | later
      · exact not_infix_of_cut? nonempty found
      · exact apart piece later
    · rw [replaceAll_of_cut?_eq_some nonempty found, replaced,
        List.intercalate_cons_of_ne_nil someLeft]

/-! ### A block over a range -/

theorem Integer.fits_toInt (value : Int64) : Fits value.toInt :=
  ⟨Int64.le_toInt value, Int.lt_add_one_iff.1 (Int64.toInt_lt value)⟩

namespace LoopTarget

/-- A range as its bounds are printed. -/
def printRange (first last : Int) : Text :=
  Integer.print first ++ (rangePoints ++ Integer.print last)

variable {first last : Int}

theorem spellsBounds_printRange (firstFits : Integer.Fits first) (lastFits : Integer.Fits last) :
    SpellsBounds (printRange first last) first last :=
  ⟨Integer.print first, Integer.print last, rfl,
    Integer.read?_eq_some_iff.1 (Integer.read?_print firstFits),
    Integer.read?_eq_some_iff.1 (Integer.read?_print lastFits)⟩

theorem isBraceFree_printRange : (printRange first last).isBraceFree :=
  Text.isBraceFree_append (Integer.isBraceFree_print first)
    (Text.isBraceFree_append (by decide) (Integer.isBraceFree_print last))

end LoopTarget

/-- A text that is one block gives way to what takes the place of the block, and what is reported
is reported of the block. -/
theorem Scope.expand_written (scope : Scope) {kind : BlockKind} {target body : Text}
    (isContents : Block.IsContents kind target body) :
    let text := Block.written kind target body
    let block : Block := ⟨kind, target, body, ⟨0, text.size⟩⟩
    scope.expand kind text =
      (block.expansion scope.root, scope.warnAll (block.warnings scope.root)) := by
  intro text block
  have noOpener : Text.cut? kind.opener [] = none := by cases kind <;> rfl
  have nothing : Block.scan kind [] = ⟨[], none⟩ := Block.scanFrom_of_no_opener noOpener
  have skips : Text.Skips kind.opener [] kind.opener := trivial
  have scanned : Block.scan kind text = ⟨[block], none⟩ := by
    have around := Block.scan_around skips isContents []
    rw [nothing, List.append_nil, List.nil_append] at around
    simpa [BlockScan.shift] using around
  obtain ⟨inside, opened, closed⟩ := Block.exists_opened_and_closed skips isContents []
  rw [List.append_nil, List.nil_append] at opened
  rw [expand, Render.expand_of_closed scope.root opened closed block.span,
    Render.expand_of_no_opener scope.root noOpener, Render.unclosedWarnings, Render.blockWarnings,
    scanned]
  simp [block]

section

variable {root : Value} {block : Block} {first last : Int}

theorem Block.expansion_of_range (kind : block.kind = .loop)
    (range : LoopTarget.ofText block.target = .range first last) :
    block.expansion root = rangeCopies block.body first last := by
  rw [expansion, kind]
  simp only [range]

theorem Block.warnings_of_range (kind : block.kind = .loop)
    (range : LoopTarget.ofText block.target = .range first last) :
    block.warnings root = block.nestingWarnings := by
  rw [warnings, kind]
  simp only [range, List.append_nil]

end

section

variable {front back body : Text}

/-- A printed range between blanks, and a body without a closer, are the contents of a block. -/
theorem LoopTarget.isContents_printRange (first last : Int)
    (frontBlank : ∀ character ∈ front, Text.isBlank character)
    (backBlank : ∀ character ∈ back, Text.isBlank character)
    (noCloser : ¬ BlockKind.closer .loop <:+: body) :
    Block.IsContents .loop (front ++ printRange first last ++ back) body := by
  have frontFree := Text.isBraceFree_of_isBlank frontBlank
  have backFree := Text.isBraceFree_of_isBlank backBlank
  have free : (front ++ printRange first last ++ back).isBraceFree :=
    Text.isBraceFree_append (Text.isBraceFree_append frontFree isBraceFree_printRange) backFree
  exact ⟨Text.skips_closeBraces free _, (BlockKind.unbordered_closer .loop).skips noCloser⟩

/-- A block over a range gives way to one copy of its body for every integer from the first bound
to the last, whatever two machine words they are. The integers are those that a counter of one
word gives, and every copy is the body with the integer printed between the pieces that the tokens
leave of it. Nothing is reported but an opener within the body. -/
theorem expand_range_loop (scope : Scope) (first last : Int64)
    (frontBlank : ∀ character ∈ front, Text.isBlank character)
    (backBlank : ∀ character ∈ back, Text.isBlank character)
    (noCloser : ¬ BlockKind.closer .loop <:+: body) :
    let bounds := LoopTarget.printRange first.toInt last.toInt
    let result := scope.expand .loop (Block.written .loop (front ++ bounds ++ back) body)
    (∃ values pieces, (WordCounter.ofBounds first last).Gives values ∧
      WordCounter.RunsThrough first last values ∧
      body = indexToken.intercalate pieces ∧ (∀ piece ∈ pieces, ¬ indexToken <:+: piece) ∧
      result.1 = values.flatMap fun value => (Integer.print value.toInt).intercalate pieces) ∧
    result.2 = scope.warnAll
      (if Text.occursIn (BlockKind.opener .loop) body then [.nestedBlock .loop bounds] else []) ∧
    ∀ kind target found, .notAList kind target found ∈ result.2.warnings →
      .notAList kind target found ∈ scope.warnings := by
  intro bounds result
  have spells : LoopTarget.SpellsBounds bounds first.toInt last.toInt :=
    LoopTarget.spellsBounds_printRange (Integer.fits_toInt first) (Integer.fits_toInt last)
  let block : Block := ⟨.loop, front ++ bounds ++ back, body,
    ⟨0, (Block.written .loop (front ++ bounds ++ back) body).size⟩⟩
  have isRange : LoopTarget.ofText block.target = .range first.toInt last.toInt :=
    spells.ofText_eq_range frontBlank backBlank
  have isContents : Block.IsContents .loop (front ++ bounds ++ back) body :=
    LoopTarget.isContents_printRange first.toInt last.toInt frontBlank backBlank noCloser
  have expanded : result =
      (block.expansion scope.root, scope.warnAll (block.warnings scope.root)) :=
    scope.expand_written isContents
  have path : block.path = bounds := spells.trim_append frontBlank backBlank
  rw [expanded, Block.expansion_of_range rfl isRange, Block.warnings_of_range rfl isRange,
    Block.nestingWarnings, path]
  refine ⟨?_, rfl, fun kind target found member => ?_⟩
  · obtain ⟨values, gives⟩ := (WordCounter.ofBounds first last).exists_gives
    have tokenNonempty : indexToken ≠ [] := by decide
    obtain ⟨pieces, -, divided, apart, replaced⟩ := Text.exists_pieces tokenNonempty body
    refine ⟨values, pieces, gives, gives.runsThrough, divided, apart, ?_⟩
    have integers : LoopTarget.integers first.toInt last.toInt = values.map Int64.toInt :=
      gives.map_toInt.symm
    simp only [block, Block.rangeCopies, integers, List.flatMap_map, replaced]
  · refine (Scope.mem_warnings_warnAll.1 member).resolve_right fun reported => ?_
    split at reported
    · cases List.mem_singleton.1 reported
    · exact absurd reported List.not_mem_nil

end

/-- Up to the greatest word, between blanks, no copy is dropped and none is added. -/
theorem expand_range_loop_greatest :
    let scope := Scope.ofRoot (.record [])
    let first := Int64.maxValue - 1
    let bounds := LoopTarget.printRange first.toInt Int64.maxValue.toInt
    let body := indexToken ++ [';']
    let result := scope.expand .loop (Block.written .loop ([' '] ++ bounds ++ ['\n']) body)
    (∃ values, (WordCounter.ofBounds first Int64.maxValue).Gives values ∧ values.length = 2) ∧
      result.1 = "9223372036854775806;9223372036854775807;".toList ∧ result.2.warnings = [] := by
  intro scope first bounds body result
  have frontBlank : ∀ character ∈ [' '], Text.isBlank character :=
    List.forall_mem_singleton.2 rfl
  have backBlank : ∀ character ∈ ['\n'], Text.isBlank character :=
    List.forall_mem_singleton.2 rfl
  have noCloser : ¬ BlockKind.closer .loop <:+: body := by decide +kernel
  obtain ⟨⟨values, pieces, gives, runs, -⟩, reports, -⟩ :=
    expand_range_loop scope first Int64.maxValue frontBlank backBlank noCloser
  refine ⟨⟨values, gives, ?_⟩, by decide +kernel, ?_⟩
  · have length := runs.length_eq (by decide)
    have count : Int64.maxValue.toInt - first.toInt + 1 = 2 := by decide
    omega
  · rw [show result.2 = _ from reports]
    decide +kernel

end Stencil
