/-
This file finds the blocks of one kind in a text. A block starts at the first
opener, its target runs to the first closing braces and its body to the first
closer, so blocks never nest and an opener within a body is text. The search goes
on behind the closer. It ends at the first opener that cannot be completed: what
is missing there, closing braces or a closer, is missing behind every later
opener as well.
-/

import Stencil.Marker.Basic
import Stencil.Text.Search

namespace Stencil

/-- The blocks of one kind in a text, and the opener that is left over. -/
structure BlockScan where
  blocks : List Block
  unclosed : Option Unclosed
  deriving DecidableEq, Repr

namespace Block

/-- The target and the body of a block whose opener has been read, and the text behind
its closer. -/
def contents? (kind : BlockKind) (inside : Text) : Option (Text × Text × Text) :=
  (Text.cut? closeBraces inside).bind fun (target, afterTarget) =>
    (Text.cut? kind.closer afterTarget).map fun (body, rest) => (target, body, rest)

/-- What a block takes from the text is its target, its body and the two tags between
and behind them. -/
theorem eq_append_of_contents? {kind : BlockKind} {inside target body rest : Text}
    (closed : contents? kind inside = some (target, body, rest)) :
    inside = target ++ closeBraces ++ body ++ kind.closer ++ rest := by
  obtain ⟨⟨front, afterTarget⟩, targetFound, remaining⟩ := Option.bind_eq_some_iff.1 closed
  obtain ⟨⟨middle, back⟩, bodyFound, same⟩ := Option.map_eq_some_iff.1 remaining
  obtain ⟨rfl, rfl, rfl⟩ : front = target ∧ middle = body ∧ back = rest := by simpa using same
  rw [Text.eq_append_of_cut? targetFound, Text.eq_append_of_cut? bodyFound]
  simp

theorem length_lt_of_contents? {kind : BlockKind} {inside target body rest : Text}
    (closed : contents? kind inside = some (target, body, rest)) : rest.length < inside.length := by
  rw [eq_append_of_contents? closed]
  simp only [List.length_append, closeBraces, List.length_cons, List.length_nil]
  omega

/-- The blocks of a kind in the text that begins at an offset. -/
def scanFrom (kind : BlockKind) (offset : Nat) (text : Text) : BlockScan :=
  match _opened : Text.cut? kind.opener text with
  | none => ⟨[], none⟩
  | some (before, inside) =>
    let start := offset + before.size
    match _closed : contents? kind inside with
    | none => ⟨[], some ⟨kind, start⟩⟩
    | some (target, body, rest) =>
      let stop := start + (written kind target body).size
      let later := scanFrom kind stop rest
      ⟨⟨kind, target, body, ⟨start, stop⟩⟩ :: later.blocks, later.unclosed⟩
termination_by text.length
decreasing_by
  have opened := Text.length_add_le_of_cut? _opened
  have closed := length_lt_of_contents? _closed
  omega

/-- The blocks of a kind in a text. -/
def scan (kind : BlockKind) (text : Text) : BlockScan :=
  scanFrom kind 0 text

/-! ### The three ways a scan goes on -/

theorem scanFrom_of_no_opener {kind : BlockKind} {offset : Nat} {text : Text}
    (absent : Text.cut? kind.opener text = none) : scanFrom kind offset text = ⟨[], none⟩ := by
  rw [scanFrom]
  split
  · rfl
  · rename_i found
    rw [absent] at found
    simp at found

theorem scanFrom_of_unclosed {kind : BlockKind} {offset : Nat} {text before inside : Text}
    (opened : Text.cut? kind.opener text = some (before, inside))
    (unclosed : contents? kind inside = none) :
    scanFrom kind offset text = ⟨[], some ⟨kind, offset + before.size⟩⟩ := by
  rw [scanFrom]
  split
  · rename_i absent
    rw [opened] at absent
    simp at absent
  · rename_i before' inside' found
    rw [opened] at found
    obtain ⟨rfl, rfl⟩ : before = before' ∧ inside = inside' := by simpa using found
    split
    · rfl
    · rename_i closed
      rw [unclosed] at closed
      simp at closed

theorem scanFrom_of_closed {kind : BlockKind} {offset : Nat}
    {text before inside target body rest : Text}
    (opened : Text.cut? kind.opener text = some (before, inside))
    (closed : contents? kind inside = some (target, body, rest)) :
    scanFrom kind offset text =
      let start := offset + before.size
      let stop := start + (written kind target body).size
      let later := scanFrom kind stop rest
      ⟨⟨kind, target, body, ⟨start, stop⟩⟩ :: later.blocks, later.unclosed⟩ := by
  rw [scanFrom]
  split
  · rename_i absent
    rw [opened] at absent
    simp at absent
  · rename_i before' inside' found
    rw [opened] at found
    obtain ⟨rfl, rfl⟩ : before = before' ∧ inside = inside' := by simpa using found
    split
    · rename_i absent
      rw [closed] at absent
      simp at absent
    · rename_i target' body' rest' found'
      rw [closed] at found'
      obtain ⟨rfl, rfl, rfl⟩ : target = target' ∧ body = body' ∧ rest = rest' := by
        simpa using found'
      rfl

end Block

end Stencil
