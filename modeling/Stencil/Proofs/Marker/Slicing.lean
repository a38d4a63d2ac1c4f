/-
This file runs the two scans over byte offsets. Every step takes slices of the whole
text, one from where the search goes on and one from the tag that it found, and a
slice inside a character makes the scan fail. A scan keeps to boundaries: it goes on
where a slice that it took has ended, or one byte behind an opening brace, which takes
a single byte. So it never fails, and it finds what the scan over characters finds.
-/

import Stencil.Proofs.Marker.BlockScan
import Stencil.Proofs.Marker.PlaceholderScan
import Stencil.Proofs.Text.Slice

namespace Stencil

/-! ### Blocks -/

/-- What one step of the scan for blocks finds: the end of the search, or a block. -/
inductive BlockStep where
  | done (unclosed : Option Unclosed)
  | block (block : Block)

namespace Block

/-- The contents of the block whose opener is at the front of a text. -/
def contentsAt? (kind : BlockKind) (tag : Text) : Option (Text × Text × Text) :=
  (kind.opener.isPrefixOf? tag).bind (contents? kind)

/-- One step of the scan from an offset of a text on; none when a slice fails. -/
def step? (kind : BlockKind) (text : Text) (offset : Nat) : Option BlockStep :=
  (text.sliceFrom? offset).bind fun remaining =>
    match Text.cut? kind.opener remaining with
    | none => some (.done none)
    | some (before, _) =>
      let start := offset + before.size
      (text.sliceFrom? start).map fun tag =>
        match contentsAt? kind tag with
        | none => .done (some ⟨kind, start⟩)
        | some (target, body, rest) => .block ⟨kind, target, body, ⟨start, text.size - rest.size⟩⟩

theorem size_lt_of_contentsAt? {kind : BlockKind} {tag target body rest : Text}
    (closed : contentsAt? kind tag = some (target, body, rest)) : rest.size < tag.size := by
  obtain ⟨inside, opened, contents⟩ := Option.bind_eq_some_iff.1 closed
  rw [Text.isPrefixOf?_eq_some_iff.1 opened, eq_append_of_contents? contents]
  have braces : 0 < closeBraces.size := by decide
  simp only [Text.size_append]
  omega

/-- A step that finds a block goes forward within the text. -/
theorem lt_stop_of_step? {kind : BlockKind} {text : Text} {offset : Nat} {block : Block}
    (found : step? kind text offset = some (.block block)) :
    offset < block.span.stop ∧ offset < text.size := by
  obtain ⟨remaining, -, rest⟩ := Option.bind_eq_some_iff.1 found
  split at rest
  · simp at rest
  · obtain ⟨tag, sliced, same⟩ := Option.map_eq_some_iff.1 rest
    split at same
    · simp at same
    · rename_i target body rest closed
      obtain rfl := BlockStep.block.inj same
      have whole := Text.size_eq_of_sliceFrom? sliced
      have shorter := size_lt_of_contentsAt? closed
      simp only
      omega

/-- The blocks of a kind from an offset of a text on, found by slices of the text; none when a
slice fails. -/
def scanFrom? (kind : BlockKind) (text : Text) (offset : Nat) : Option BlockScan :=
  match _found : step? kind text offset with
  | none => none
  | some (.done unclosed) => some ⟨[], unclosed⟩
  | some (.block block) =>
    (scanFrom? kind text block.span.stop).map fun later =>
      ⟨block :: later.blocks, later.unclosed⟩
termination_by text.size - offset
decreasing_by
  have forward := lt_stop_of_step? _found
  omega

theorem scanFrom?_of_done {kind : BlockKind} {text : Text} {offset : Nat}
    {unclosed : Option Unclosed} (done : step? kind text offset = some (.done unclosed)) :
    scanFrom? kind text offset = some ⟨[], unclosed⟩ := by
  rw [scanFrom?]
  split <;> simp_all

theorem scanFrom?_of_block {kind : BlockKind} {text : Text} {offset : Nat} {block : Block}
    (found : step? kind text offset = some (.block block)) :
    scanFrom? kind text offset = (scanFrom? kind text block.span.stop).map fun later =>
      ⟨block :: later.blocks, later.unclosed⟩ := by
  rw [scanFrom?]
  split <;> simp_all

/-- From a boundary on no slice of a step fails. -/
theorem step?_of_cut? {kind : BlockKind} (front : Text) {text before inside : Text}
    (opened : Text.cut? kind.opener text = some (before, inside)) :
    step? kind (front ++ text) front.size =
      match contents? kind inside with
      | none => some (.done (some ⟨kind, front.size + before.size⟩))
      | some (target, body, _) => some (.block ⟨kind, target, body, ⟨front.size + before.size,
          front.size + before.size + (written kind target body).size⟩⟩) := by
  have behindFront : front ++ text = front ++ before ++ (kind.opener ++ inside) := by
    rw [Text.eq_append_of_cut? opened]
    simp
  have atOpener : (front ++ text).sliceFrom? (front.size + before.size) =
      some (kind.opener ++ inside) := by
    rw [behindFront, ← Text.size_append, Text.sliceFrom?_append]
  rw [step?, Text.sliceFrom?_append, Option.bind_some, opened]
  simp only [atOpener, Option.map_some, contentsAt?, Text.isPrefixOf?_append, Option.bind_some]
  cases closed : contents? kind inside with
  | none => rfl
  | some contents =>
    obtain ⟨target, body, rest⟩ := contents
    have stop : (front ++ text).size - rest.size =
        front.size + before.size + (written kind target body).size := by
      rw [behindFront, eq_append_of_contents? closed, written]
      simp only [Text.size_append]
      omega
    simp only [stop]

/-- No slice of the scan for blocks fails. -/
theorem scanFrom?_eq_some (kind : BlockKind) (front text : Text) :
    scanFrom? kind (front ++ text) front.size = some (scanFrom kind front.size text) := by
  cases opened : Text.cut? kind.opener text with
  | none =>
    have done : step? kind (front ++ text) front.size = some (.done none) := by
      rw [step?, Text.sliceFrom?_append, Option.bind_some, opened]
    rw [scanFrom_of_no_opener opened, scanFrom?_of_done done]
  | some parts =>
    obtain ⟨before, inside⟩ := parts
    have step := step?_of_cut? front opened
    cases closed : contents? kind inside with
    | none =>
      rw [closed] at step
      rw [scanFrom_of_unclosed opened closed, scanFrom?_of_done step]
    | some contents =>
      obtain ⟨target, body, rest⟩ := contents
      rw [closed] at step
      have whole : front ++ text = front ++ before ++ written kind target body ++ rest := by
        rw [eq_append_of_closed opened closed]
        simp
      have recursive := scanFrom?_eq_some kind (front ++ before ++ written kind target body) rest
      rw [← whole, Text.size_append, Text.size_append] at recursive
      rw [scanFrom_of_closed opened closed, scanFrom?_of_block step, recursive, Option.map_some]
termination_by text.length
decreasing_by
  have opened := Text.length_add_le_of_cut? opened
  have closed := length_lt_of_contents? closed
  omega

end Block

/-! ### Placeholders -/

/-- What one step of the scan for placeholders finds: the end of the search, a placeholder, or
braces behind which the search goes on. -/
inductive PlaceholderStep where
  | done
  | placeholder (placeholder : Placeholder)
  | skip (next : Nat)

namespace Placeholder

/-- One step of the scan from an offset of a text on; none when a slice fails. -/
def step? (text : Text) (offset : Nat) : Option PlaceholderStep :=
  (text.sliceFrom? offset).bind fun remaining =>
    match Text.cut? openBraces remaining with
    | none => some .done
    | some (before, _) =>
      let start := offset + before.size
      (text.sliceFrom? start).map fun tag =>
        match read? tag with
        | some (content, rest) => .placeholder ⟨content.trim, ⟨start, text.size - rest.size⟩⟩
        | none => .skip (start + 1)

theorem size_lt_of_read? {text content rest : Text} (read : read? text = some (content, rest)) :
    rest.size < text.size := by
  rw [eq_append_of_read? read, Text.size_append, size_written]
  omega

/-- A step that does not end the search goes forward within the text. -/
theorem lt_next_of_step? {text : Text} {offset : Nat} {step : PlaceholderStep}
    (found : step? text offset = some step) :
    (∀ placeholder, step = .placeholder placeholder →
      offset < placeholder.span.stop ∧ offset < text.size) ∧
    ∀ next, step = .skip next → offset < next ∧ offset < text.size := by
  obtain ⟨remaining, remains, rest⟩ := Option.bind_eq_some_iff.1 found
  split at rest
  · obtain rfl := Option.some.inj rest
    simp
  · rename_i before inside opened
    obtain ⟨tag, sliced, same⟩ := Option.map_eq_some_iff.1 rest
    have whole := Text.size_eq_of_sliceFrom? sliced
    split at same
    · rename_i content rest read
      subst same
      have shorter := size_lt_of_read? read
      refine ⟨?_, by simp⟩
      rintro _ ⟨⟩
      simp only
      omega
    · subst same
      refine ⟨by simp, ?_⟩
      rintro _ ⟨⟩
      have braces : 0 < openBraces.size := by decide
      have remainder := Text.size_eq_of_sliceFrom? remains
      rw [Text.eq_append_of_cut? opened, Text.size_append, Text.size_append] at remainder
      omega

/-- The placeholders from an offset of a text on, found by slices of the text; none when a
slice fails. -/
def scanFrom? (text : Text) (offset : Nat) : Option (List Placeholder) :=
  match _found : step? text offset with
  | none => none
  | some .done => some []
  | some (.placeholder placeholder) =>
    (scanFrom? text placeholder.span.stop).map (placeholder :: ·)
  | some (.skip next) => scanFrom? text next
termination_by text.size - offset
decreasing_by
  · have forward := (lt_next_of_step? _found).1 placeholder rfl
    omega
  · have forward := (lt_next_of_step? _found).2 next rfl
    omega

theorem scanFrom?_of_done {text : Text} {offset : Nat} (done : step? text offset = some .done) :
    scanFrom? text offset = some [] := by
  rw [scanFrom?]
  split <;> simp_all

theorem scanFrom?_of_placeholder {text : Text} {offset : Nat} {placeholder : Placeholder}
    (found : step? text offset = some (.placeholder placeholder)) :
    scanFrom? text offset = (scanFrom? text placeholder.span.stop).map (placeholder :: ·) := by
  rw [scanFrom?]
  split <;> simp_all

theorem scanFrom?_of_skip {text : Text} {offset next : Nat}
    (skipped : step? text offset = some (.skip next)) :
    scanFrom? text offset = scanFrom? text next := by
  rw [scanFrom?]
  split <;> simp_all

/-- From a boundary on no slice of a step fails. -/
theorem step?_of_cut? (front : Text) {text before inside : Text}
    (opened : Text.cut? openBraces text = some (before, inside)) :
    step? (front ++ text) front.size =
      match read? (openBraces ++ inside) with
      | some (content, _) => some (.placeholder ⟨content.trim,
          ⟨front.size + before.size, front.size + before.size + (written content).size⟩⟩)
      | none => some (.skip (front.size + before.size + 1)) := by
  have behindFront : front ++ text = front ++ before ++ (openBraces ++ inside) := by
    rw [Text.eq_append_of_cut? opened]
    simp
  have atBraces : (front ++ text).sliceFrom? (front.size + before.size) =
      some (openBraces ++ inside) := by
    rw [behindFront, ← Text.size_append, Text.sliceFrom?_append]
  rw [step?, Text.sliceFrom?_append, Option.bind_some, opened]
  simp only [atBraces, Option.map_some]
  cases read : read? (openBraces ++ inside) with
  | none => rfl
  | some parts =>
    obtain ⟨content, rest⟩ := parts
    have stop : (front ++ text).size - rest.size =
        front.size + before.size + (written content).size := by
      rw [behindFront, eq_append_of_read? read]
      simp only [Text.size_append]
      omega
    simp only [stop]

/-- No slice of the scan for placeholders fails. -/
theorem scanFrom?_eq_some (front text : Text) :
    scanFrom? (front ++ text) front.size = some (scanFrom front.size text) := by
  cases opened : Text.cut? openBraces text with
  | none =>
    have done : step? (front ++ text) front.size = some .done := by
      rw [step?, Text.sliceFrom?_append, Option.bind_some, opened]
    have nothing := scanFrom_append (Text.skips_of_cut?_eq_none opened) front.size
    rw [List.append_nil, scanFrom_nil] at nothing
    rw [scanFrom?_of_done done, nothing]
  | some parts =>
    obtain ⟨before, inside⟩ := parts
    have step := step?_of_cut? front opened
    have divided := Text.eq_append_of_cut? opened
    have passed : scanFrom front.size text =
        scanFrom (front.size + before.size) (openBraces ++ inside) := by
      rw [← scanFrom_append (Text.skips_of_cut? opened), divided, List.append_assoc]
    cases read : read? (openBraces ++ inside) with
    | some parts =>
      obtain ⟨content, rest⟩ := parts
      rw [read] at step
      have whole : front ++ text = front ++ before ++ written content ++ rest := by
        rw [divided, List.append_assoc, eq_append_of_read? read]
        simp
      have recursive := scanFrom?_eq_some (front ++ before ++ written content) rest
      rw [← whole, Text.size_append, Text.size_append] at recursive
      rw [passed, scanFrom_of_read? read, scanFrom?_of_placeholder step, recursive,
        Option.map_some]
    | none =>
      rw [read] at step
      have whole : front ++ text = front ++ before ++ ['{'] ++ ('{' :: inside) := by
        rw [divided]
        simp [openBraces]
      have recursive := scanFrom?_eq_some (front ++ before ++ ['{']) ('{' :: inside)
      rw [← whole, Text.size_append, Text.size_append] at recursive
      -- The brace that is passed over is one byte long, so the next offset is a boundary.
      rw [passed, scanFrom?_of_skip step]
      exact recursive.trans (congrArg some (scanFrom_of_not_read read).symm)
termination_by text.length
decreasing_by
  · have shorter := congrArg List.length divided
    simp only [List.length_append, List.length_cons, openBraces, List.length_nil] at shorter ⊢
    omega
  · have shorter := congrArg List.length divided
    have read := length_lt_of_read? read
    simp only [List.length_append] at shorter read
    omega

end Placeholder

end Stencil
