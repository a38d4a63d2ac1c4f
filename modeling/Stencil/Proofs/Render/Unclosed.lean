/-
This file compares the openers that a rendering reports as unclosed with those that
an outline lists. A rendering reads two rewritten texts besides the template, but it
looks for unclosed openers in the template alone, and no report on a block or on a
placeholder is of this sort. So the two agree whatever the data is, opener by opener
and at the same offsets, and the command that checks a template with a context finds
it clean exactly when the rendering reports nothing.
-/

import Stencil.Command.Check
import Stencil.Proofs.Marker.BlockScan
import Stencil.Proofs.Render.Reports

namespace Stencil

/-- The opener that a report says nothing closes. -/
def Warning.unclosed? : Warning → Option Unclosed
  | .unclosedBlock kind offset => some ⟨kind, offset⟩
  | _ => none

theorem Warning.unclosed?_eq_some_iff {warning : Warning} {unclosed : Unclosed} :
    warning.unclosed? = some unclosed ↔
      warning = .unclosedBlock unclosed.kind unclosed.offset := by
  cases warning <;> cases unclosed <;> simp [unclosed?]

/-! ### The reports of the passes -/

namespace Render

theorem unclosed?_of_mem_interpolationWarnings {root : Value} {isItem : Bool} {text : Text}
    {warning : Warning} (member : warning ∈ interpolationWarnings root isItem text) :
    warning.unclosed? = none := by
  obtain ⟨placeholder, -, reported⟩ := mem_interpolationWarnings.1 member
  rcases Placeholder.warning?_eq_some_iff.1 reported with ⟨value, -, -, rfl⟩ | ⟨-, -, rfl⟩
  · rfl
  · rfl

theorem filterMap_unclosed?_interpolationWarnings (root : Value) (isItem : Bool) (text : Text) :
    (interpolationWarnings root isItem text).filterMap Warning.unclosed? = [] :=
  List.filterMap_eq_nil_iff.2 fun _ member => unclosed?_of_mem_interpolationWarnings member

theorem filterMap_unclosed?_blockWarnings (kind : BlockKind) (root : Value) (text : Text) :
    (blockWarnings kind root text).filterMap Warning.unclosed? = [] := by
  refine filterMap_blockWarnings_eq_nil ?_ ?_ ?_ ?_ kind root text
  · exact fun _ _ => rfl
  · exact fun _ _ _ => rfl
  · exact fun _ _ _ => rfl
  · exact fun _ _ _ member => unclosed?_of_mem_interpolationWarnings member

theorem filterMap_unclosed?_unclosedWarnings (kind : BlockKind) (text : Text) :
    (unclosedWarnings kind text).filterMap Warning.unclosed? =
      (Block.scan kind text).unclosed.toList := by
  rw [unclosedWarnings]
  cases (Block.scan kind text).unclosed <;> rfl

/-- The passes over a template report the openers that its own scans leave over. -/
theorem filterMap_unclosed?_pageWarnings (root : Value) (isItem : Bool) (template : Text) :
    (pageWarnings root isItem template).filterMap Warning.unclosed? =
      Outline.openers template := by
  simp only [pageWarnings, List.filterMap_append, filterMap_unclosed?_unclosedWarnings,
    filterMap_unclosed?_blockWarnings, filterMap_unclosed?_interpolationWarnings, List.append_nil]
  rfl

end Render

/-! ### The outline -/

/-- There is at most one opener of each kind, so none is listed twice. -/
theorem Outline.nodup_openers (template : Text) : (openers template).Nodup := by
  rw [openers]
  cases each : (Block.scan .each template).unclosed with
  | none => cases (Block.scan .loop template).unclosed <;> simp
  | some first =>
    cases loop : (Block.scan .loop template).unclosed with
    | none => simp
    | some second =>
      have firstKind := ((Block.exactFrom_scan .each template).unclosed_first first each).1
      have secondKind := ((Block.exactFrom_scan .loop template).unclosed_first second loop).1
      have differ : first ≠ second := by
        rintro rfl
        rw [firstKind] at secondKind
        contradiction
      simpa using differ

theorem filterMap_unclosed?_warnings (root : Value) (template : Text) :
    (render root template).warnings.filterMap Warning.unclosed? = Outline.openers template := by
  have kept := filterMap_warnings_render (fun _ _ => Warning.unclosed?_eq_some_iff.1)
    root template
  rw [kept, Render.filterMap_unclosed?_pageWarnings,
    eraseDups_eq_self (Outline.nodup_openers template)]

theorem Outline.unclosed_eq_nil_of_warnings {root : Value} {template : Text}
    (silent : (render root template).warnings = []) : (ofText template).unclosed = [] := by
  have openers := filterMap_unclosed?_warnings root template
  rw [silent, List.filterMap_nil] at openers
  have listed := unclosed_perm template
  rw [← openers] at listed
  exact listed.eq_nil

/-! ### The command -/

namespace CheckCommand

/-- How a check ends that has read its template and made its context. -/
theorem ending_run {files : Files} {arguments : CheckArguments} {template : Text} {context : Json}
    {root : Value} (read : files arguments.file = .ok template)
    (given : arguments.context.isGiven) (loaded : arguments.context.load files = .ok context)
    (valid : Value.ofContext context = .ok root) :
    (run files arguments).ending =
      .exit (if (Outline.ofText template).unclosed.isEmpty &&
        (render root template).warnings.isEmpty then .ok else .dataError) := by
  have found : warnings files template arguments.context = .ok (render root template).warnings := by
    simp only [warnings, if_pos given, loaded, valid]
  simp only [run, read, found]
  split <;> rfl

end CheckCommand

/-- Rendering and the outline agree on what is unclosed: the reports of a rendering that an
opener is unclosed are the entries of the outline, each once, and a check with a valid
context succeeds exactly when the rendering reports nothing. -/
theorem unclosed_reports_perm_outline (root : Value) (template : Text) :
    ((render root template).warnings.filterMap Warning.unclosed?).Perm
        (Outline.ofText template).unclosed ∧
      (Outline.ofText template).unclosed.Nodup ∧
      ∀ (files : Files) (arguments : CheckArguments) (context : Json),
        files arguments.file = .ok template → arguments.context.isGiven →
        arguments.context.load files = .ok context → Value.ofContext context = .ok root →
          ((CheckCommand.run files arguments).ending = .exit .ok ↔
            (render root template).warnings = []) := by
  have listed := Outline.unclosed_perm template
  refine ⟨?_, ?_, ?_⟩
  · rw [filterMap_unclosed?_warnings]
    exact listed.symm
  · exact listed.nodup_iff.2 (Outline.nodup_openers template)
  · intro files arguments context read given loaded valid
    rw [CheckCommand.ending_run read given loaded valid]
    constructor
    · intro succeeded
      by_cases silent : (render root template).warnings = []
      · exact silent
      · simp [silent] at succeeded
    · intro silent
      simp [silent, Outline.unclosed_eq_nil_of_warnings silent]

/-- A `for` block that is closed within the body of an `each` block only, and a record to fill
its body. -/
theorem unclosed_reports_perm_outline_crossing :
    let template := Block.written .each "rows".toList
      (BlockKind.opener .loop ++ "1...2".toList ++ closeBraces ++ Placeholder.written ['a'])
    let files : Files := fun path => if path = ['t'] then .ok template else .error .missing
    let arguments : CheckArguments := ⟨['t'], ⟨none, [⟨['a'], ['b']⟩]⟩, false⟩
    let root : Value := .record [(['a'], .text ['b'])]
    let context : Json := .object [(['a'], .string ['b'])]
    files arguments.file = .ok template ∧ arguments.context.isGiven ∧
      arguments.context.load files = .ok context ∧ Value.ofContext context = .ok root ∧
      (Outline.ofText template).unclosed = [⟨.loop, 14⟩] ∧
      ((render root template).warnings.filterMap Warning.unclosed?).Perm [⟨.loop, 14⟩] ∧
      (CheckCommand.run files arguments).ending ≠ .exit .ok := by
  intro template files arguments root context
  have agree := unclosed_reports_perm_outline root template
  have listed : (Outline.ofText template).unclosed = [⟨.loop, 14⟩] := by decide +kernel
  refine ⟨rfl, rfl, rfl, rfl, listed, ?_, ?_⟩
  · rw [← listed]
    exact agree.1
  · intro succeeded
    have silent := (agree.2.2 files arguments context rfl rfl rfl rfl).1 succeeded
    have loud : (render root template).warnings ≠ [] := by decide +kernel
    exact loud silent

end Stencil
