/-
This file says what the scan for blocks finds. A block is read at the first opener
behind the block before it; its target ends at the first closing braces and its body
at the first closer behind them. The scan stops at the first opener that is left
over, and this loses nothing: a later opener that could be closed would have its
braces and its closer behind the first opener as well. These statements determine the
blocks and the opener that is left over, so the scan is the only result for which
they hold.
-/

import Stencil.Marker.Blocks
import Stencil.Proofs.Text.Place

namespace Stencil

theorem BlockKind.opener_ne_nil (kind : BlockKind) : kind.opener ≠ [] := by
  cases kind <;> decide

theorem BlockKind.closer_ne_nil (kind : BlockKind) : kind.closer ≠ [] := by
  cases kind <;> decide

namespace Block

/-- The offset at which the target of a block begins. -/
def targetStart (block : Block) : Nat :=
  block.span.start + block.kind.opener.size

/-- The offset at which the body of a block begins. -/
def bodyStart (block : Block) : Nat :=
  block.targetStart + block.target.size + closeBraces.size

/-- The offset behind the last of some blocks, or the given one when there is none. -/
def stopFrom (offset : Nat) : List Block → Nat
  | [] => offset
  | block :: later => stopFrom block.span.stop later

/-- A block is read in a text from an offset on: at the first opener, with a target up to the
first closing braces and a body up to the first closer. -/
structure ReadFrom (kind : BlockKind) (text : Text) (offset : Nat) (block : Block) : Prop where
  kind_eq : block.kind = kind
  opener_first : kind.opener.FirstFrom text offset block.span.start
  target_stands : block.target.StandsAt text block.targetStart
  braces_first :
    closeBraces.FirstFrom text block.targetStart (block.targetStart + block.target.size)
  body_stands : block.body.StandsAt text block.bodyStart
  closer_first : kind.closer.FirstFrom text block.bodyStart (block.bodyStart + block.body.size)
  stop_eq : block.span.stop = block.bodyStart + block.body.size + kind.closer.size

/-- Behind an opener at an offset there are closing braces and, behind these, a closer. -/
def ClosesBehind (kind : BlockKind) (text : Text) (opener : Nat) : Prop :=
  ∃ braces closer, opener + kind.opener.size ≤ braces ∧ closeBraces.StandsAt text braces ∧
    braces + closeBraces.size ≤ closer ∧ kind.closer.StandsAt text closer

end Block

/-- A scan that went on from an offset has found the blocks of a text: each one is read from
where the block before it stops, and an opener behind the last one is left over exactly when
there is one. Then it is the first, and neither it nor a later one can be closed. -/
structure BlockScan.ExactFrom (kind : BlockKind) (text : Text) (offset : Nat)
    (result : BlockScan) : Prop where
  block_read : ∀ before block after, result.blocks = before ++ block :: after →
    block.ReadFrom kind text (Block.stopFrom offset before)
  unclosed_isSome_iff : result.unclosed.isSome ↔
    ∃ opener, Block.stopFrom offset result.blocks ≤ opener ∧ kind.opener.StandsAt text opener
  unclosed_first : ∀ unclosed, result.unclosed = some unclosed → unclosed.kind = kind ∧
    kind.opener.FirstFrom text (Block.stopFrom offset result.blocks) unclosed.offset
  unclosed_stays : ∀ unclosed, result.unclosed = some unclosed → ∀ opener,
    unclosed.offset ≤ opener → kind.opener.StandsAt text opener →
      ¬ Block.ClosesBehind kind text opener

namespace Block

/-! ### One block -/

/-- A text around its first block. -/
theorem eq_append_of_closed {kind : BlockKind} {text before inside target body rest : Text}
    (opened : Text.cut? kind.opener text = some (before, inside))
    (closed : contents? kind inside = some (target, body, rest)) :
    text = before ++ written kind target body ++ rest := by
  rw [Text.eq_append_of_cut? opened, eq_append_of_contents? closed, written]
  simp

/-- The contents of a block are cut off at the first closing braces and at the first closer
behind these. -/
theorem contents?_eq_some_iff {kind : BlockKind} {inside target body rest : Text} :
    contents? kind inside = some (target, body, rest) ↔
      ∃ afterTarget, Text.cut? closeBraces inside = some (target, afterTarget) ∧
        Text.cut? kind.closer afterTarget = some (body, rest) := by
  simp only [contents?, Option.bind_eq_some_iff, Option.map_eq_some_iff, Prod.exists,
    Prod.mk.injEq]
  constructor
  · rintro ⟨_, afterTarget, targetFound, _, _, bodyFound, rfl, rfl, rfl⟩
    exact ⟨afterTarget, targetFound, bodyFound⟩
  · rintro ⟨afterTarget, targetFound, bodyFound⟩
    exact ⟨target, afterTarget, targetFound, body, rest, bodyFound, rfl, rfl, rfl⟩

/-- What is cut off around the tags of a block is a block read from the front on. -/
theorem readFrom_of_contents? {kind : BlockKind} {front text before inside target body rest : Text}
    (opened : Text.cut? kind.opener text = some (before, inside))
    (closed : contents? kind inside = some (target, body, rest)) :
    ReadFrom kind (front ++ text) front.size ⟨kind, target, body,
      ⟨front.size + before.size, front.size + before.size + (written kind target body).size⟩⟩ := by
  obtain ⟨afterTarget, targetFound, bodyFound⟩ := contents?_eq_some_iff.1 closed
  have behindOpener : front ++ text = front ++ before ++ kind.opener ++ inside := by
    rw [Text.eq_append_of_cut? opened]
    simp
  have behindBraces : front ++ text =
      front ++ before ++ kind.opener ++ target ++ closeBraces ++ afterTarget := by
    rw [behindOpener, Text.eq_append_of_cut? targetFound]
    simp
  have opener := Text.firstFrom_of_cut? opened (rfl : front ++ text = front ++ text)
  have braces := Text.firstFrom_of_cut? targetFound behindOpener
  have closer := Text.firstFrom_of_cut? bodyFound behindBraces
  have targetStands : target.StandsAt (front ++ text)
      (front ++ before ++ kind.opener).size :=
    ⟨_, closeBraces ++ afterTarget, by rw [behindBraces]; simp, rfl⟩
  have bodyStands : body.StandsAt (front ++ text)
      (front ++ before ++ kind.opener ++ target ++ closeBraces).size :=
    ⟨_, kind.closer ++ rest, by rw [behindBraces, Text.eq_append_of_cut? bodyFound]; simp, rfl⟩
  simp only [Text.size_append] at braces closer targetStands bodyStands
  refine ⟨rfl, opener, targetStands, braces, bodyStands, closer, ?_⟩
  simp only [bodyStart, targetStart, written, Text.size_append]
  omega

/-- Where an opener can be closed, the contents of the block behind every earlier opener can
be read as well. -/
theorem contents?_ne_none_of_closesBehind {kind : BlockKind} {text front inside : Text}
    {opener : Nat} (closes : ClosesBehind kind text opener) (whole : text = front ++ inside)
    (behind : front.size ≤ opener + kind.opener.size) : contents? kind inside ≠ none := by
  obtain ⟨braces, closer, bracesBehind, bracesStand, closerBehind, closerStands⟩ := closes
  obtain ⟨target, afterTarget, targetFound⟩ :=
    Text.exists_cut?_of_standsAt bracesStand whole (by omega)
  have behindBraces : text = front ++ target ++ closeBraces ++ afterTarget := by
    rw [whole, Text.eq_append_of_cut? targetFound]
    simp
  -- The first braces come no later than those of the later opener, so its closer is behind both.
  have first := (Text.firstFrom_of_cut? targetFound whole).2.2 braces (by omega) bracesStand
  obtain ⟨body, rest, bodyFound⟩ := Text.exists_cut?_of_standsAt closerStands behindBraces (by
    simp only [Text.size_append]
    omega)
  rw [contents?_eq_some_iff.2 ⟨afterTarget, targetFound, bodyFound⟩]
  exact Option.some_ne_none _

theorem ReadFrom.closesBehind {kind : BlockKind} {text : Text} {offset : Nat} {block : Block}
    (read : block.ReadFrom kind text offset) : ClosesBehind kind text block.span.start := by
  obtain ⟨rfl, opener, target, braces, body, closer, stop⟩ := read
  refine ⟨block.targetStart + block.target.size, block.bodyStart + block.body.size, ?_,
    braces.2.1, ?_, closer.2.1⟩
  · rw [targetStart]
    omega
  · rw [bodyStart]
    omega

/-- From one offset only one block can be read. -/
theorem ReadFrom.unique {kind : BlockKind} {text : Text} {offset : Nat} {first second : Block}
    (firstRead : first.ReadFrom kind text offset) (secondRead : second.ReadFrom kind text offset) :
    first = second := by
  obtain ⟨kind₁, target₁, body₁, start₁, stop₁⟩ := first
  obtain ⟨kind₂, target₂, body₂, start₂, stop₂⟩ := second
  obtain ⟨rfl, opener₁, targetStands₁, braces₁, bodyStands₁, closer₁, stops₁⟩ := firstRead
  obtain ⟨rfl, opener₂, targetStands₂, braces₂, bodyStands₂, closer₂, stops₂⟩ := secondRead
  simp only [bodyStart, targetStart] at *
  obtain rfl : start₁ = start₂ := opener₁.unique opener₂
  have targetSizes := braces₁.unique braces₂
  obtain rfl : target₁ = target₂ := targetStands₁.eq_of_size_eq targetStands₂ (by omega)
  have bodySizes := closer₁.unique closer₂
  obtain rfl : body₁ = body₂ := bodyStands₁.eq_of_size_eq bodyStands₂ (by omega)
  obtain rfl : stop₁ = stop₂ := stops₁.trans stops₂.symm
  rfl

end Block

/-! ### The whole scan -/

namespace BlockScan

variable {kind : BlockKind} {text : Text} {offset : Nat}

/-- A scan is exact when its first block is read from where it went on and the rest is exact
behind that block. -/
theorem exactFrom_cons_iff {block : Block} {later : List Block} {unclosed : Option Unclosed} :
    ExactFrom kind text offset ⟨block :: later, unclosed⟩ ↔
      block.ReadFrom kind text offset ∧ ExactFrom kind text block.span.stop ⟨later, unclosed⟩ := by
  constructor
  · rintro ⟨read, isSome, first, stays⟩
    refine ⟨read [] block later rfl, fun before other after divided => ?_, isSome, first, stays⟩
    exact read (block :: before) other after (congrArg (block :: ·) divided)
  · rintro ⟨blockRead, read, isSome, first, stays⟩
    refine ⟨fun before other after divided => ?_, isSome, first, stays⟩
    cases before with
    | nil =>
      obtain ⟨rfl, -⟩ := List.cons.inj divided
      exact blockRead
    | cons head front =>
      obtain ⟨rfl, rest⟩ := List.cons.inj divided
      exact read front other after rest

/-- When the search ends there is no block left to read. -/
theorem ExactFrom.not_readFrom {unclosed : Option Unclosed}
    (complete : ExactFrom kind text offset ⟨[], unclosed⟩) (block : Block) :
    ¬ block.ReadFrom kind text offset := by
  intro read
  obtain ⟨behind, stands, -⟩ := read.opener_first
  obtain ⟨opener, found⟩ :=
    Option.isSome_iff_exists.1 (complete.unclosed_isSome_iff.2 ⟨_, behind, stands⟩)
  obtain ⟨-, first⟩ := complete.unclosed_first opener found
  exact complete.unclosed_stays opener found _ (first.2.2 _ behind stands) stands read.closesBehind

/-- The opener that is left over is determined by the blocks. -/
theorem ExactFrom.unclosed_unique {blocks : List Block} {first second : Option Unclosed}
    (firstExact : ExactFrom kind text offset ⟨blocks, first⟩)
    (secondExact : ExactFrom kind text offset ⟨blocks, second⟩) : first = second := by
  have same := firstExact.unclosed_isSome_iff.trans secondExact.unclosed_isSome_iff.symm
  rcases first with _ | ⟨kind₁, offset₁⟩
  · rcases second with _ | second
    · rfl
    · simp at same
  · rcases second with _ | ⟨kind₂, offset₂⟩
    · simp at same
    · obtain ⟨rfl, first⟩ := firstExact.unclosed_first _ rfl
      obtain ⟨rfl, second⟩ := secondExact.unclosed_first _ rfl
      obtain rfl : offset₁ = offset₂ := first.unique second
      rfl

/-- Only one result of a scan is exact. -/
theorem ExactFrom.unique {first second : BlockScan} (firstExact : ExactFrom kind text offset first)
    (secondExact : ExactFrom kind text offset second) : first = second := by
  obtain ⟨blocks, firstUnclosed⟩ := first
  obtain ⟨others, secondUnclosed⟩ := second
  induction blocks generalizing offset others with
  | nil =>
    cases others with
    | nil => rw [firstExact.unclosed_unique secondExact]
    | cons block later =>
      exact absurd (exactFrom_cons_iff.1 secondExact).1 (firstExact.not_readFrom block)
  | cons block later inductionHypothesis =>
    obtain ⟨firstRead, firstLater⟩ := exactFrom_cons_iff.1 firstExact
    cases others with
    | nil => exact absurd firstRead (secondExact.not_readFrom block)
    | cons other later' =>
      obtain ⟨secondRead, secondLater⟩ := exactFrom_cons_iff.1 secondExact
      obtain rfl : block = other := firstRead.unique secondRead
      have rest := inductionHypothesis firstLater later' secondLater
      simp only [BlockScan.mk.injEq] at rest
      obtain ⟨rfl, rfl⟩ := rest
      rfl

end BlockScan

namespace Block

/-- The scan of the rest of a text is exact behind the front. -/
theorem exactFrom_scanFrom (kind : BlockKind) (front rest : Text) :
    (scanFrom kind front.size rest).ExactFrom kind (front ++ rest) front.size := by
  cases opened : Text.cut? kind.opener rest with
  | none =>
    have absent : ¬ ∃ opener,
        front.size ≤ opener ∧ kind.opener.StandsAt (front ++ rest) opener := by
      rintro ⟨opener, behind, stands⟩
      obtain ⟨before, after, found⟩ := Text.exists_cut?_of_standsAt stands rfl behind
      rw [opened] at found
      simp at found
    rw [scanFrom_of_no_opener opened]
    exact ⟨by simp, by simpa [stopFrom] using absent, by simp, by simp⟩
  | some parts =>
    obtain ⟨before, inside⟩ := parts
    have first := Text.firstFrom_of_cut? opened (rfl : front ++ rest = front ++ rest)
    cases closed : contents? kind inside with
    | none =>
      have behindOpener : front ++ rest = front ++ before ++ kind.opener ++ inside := by
        rw [Text.eq_append_of_cut? opened]
        simp
      rw [scanFrom_of_unclosed opened closed]
      refine ⟨by simp, ?_, ?_, ?_⟩
      · exact iff_of_true rfl ⟨_, first.1, first.2.1⟩
      · rintro _ ⟨⟩
        exact ⟨rfl, first⟩
      · rintro _ ⟨⟩ opener (behind : front.size + before.size ≤ opener) - closes
        refine contents?_ne_none_of_closesBehind closes behindOpener ?_ closed
        simp only [Text.size_append]
        omega
    | some contents =>
      obtain ⟨target, body, later⟩ := contents
      have whole : front ++ rest = front ++ before ++ written kind target body ++ later := by
        rw [eq_append_of_closed opened closed]
        simp
      have recursive := exactFrom_scanFrom kind (front ++ before ++ written kind target body) later
      rw [← whole, Text.size_append, Text.size_append] at recursive
      rw [scanFrom_of_closed opened closed]
      exact BlockScan.exactFrom_cons_iff.2 ⟨readFrom_of_contents? opened closed, recursive⟩
termination_by rest.length
decreasing_by
  have opened := Text.length_add_le_of_cut? opened
  have closed := length_lt_of_contents? closed
  omega

theorem exactFrom_scan (kind : BlockKind) (text : Text) :
    (scan kind text).ExactFrom kind text 0 :=
  exactFrom_scanFrom kind [] text

/-- A block that the scan of a text finds is read in it from some offset on. -/
theorem exists_readFrom_of_mem_scan {kind : BlockKind} {text : Text} {block : Block}
    (member : block ∈ (scan kind text).blocks) : ∃ offset, block.ReadFrom kind text offset := by
  obtain ⟨before, after, divided⟩ := List.append_of_mem member
  exact ⟨_, (exactFrom_scan kind text).block_read before block after divided⟩

theorem kind_of_mem_scan {kind : BlockKind} {text : Text} {block : Block}
    (member : block ∈ (scan kind text).blocks) : block.kind = kind := by
  obtain ⟨offset, read⟩ := exists_readFrom_of_mem_scan member
  exact read.kind_eq

/-- The body of a block stands in the text in which the block was found. -/
theorem body_infix_of_mem_scan {kind : BlockKind} {text : Text} {block : Block}
    (member : block ∈ (scan kind text).blocks) : block.body <:+: text := by
  obtain ⟨offset, read⟩ := exists_readFrom_of_mem_scan member
  obtain ⟨front, back, whole, -⟩ := read.body_stands
  exact ⟨front, back, whole.symm⟩

/-- The scan of a text finds exactly the blocks that are read one behind the other, and the
opener that is left over. -/
theorem scan_eq_iff_exactFrom {kind : BlockKind} {text : Text} {result : BlockScan} :
    scan kind text = result ↔ result.ExactFrom kind text 0 := by
  constructor
  · rintro rfl
    exact exactFrom_scan kind text
  · intro complete
    exact (exactFrom_scan kind text).unique complete

end Block

end Stencil
