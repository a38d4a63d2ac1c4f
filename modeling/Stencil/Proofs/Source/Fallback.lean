/-
This file shows that the fallback is filled with the name and the reason of a failed load
without ever reading them. In the data of the fallback no walk arrives at a list, so the
passes over blocks remove every block but those over a range, whatever the name and the
reason are. The placeholders that are left were written in the fallback, and filling them
is the last thing that happens: a name that is spelled like a marker stands in the page as
it is spelled.
-/

import Stencil.Proofs.Render.PlainText
import Stencil.Proofs.Template.BraceFree
import Stencil.Proofs.Template.Dividing
import Stencil.Source.Views

namespace Stencil

/-! ### Data without lists -/

namespace Value

/-- No walk arrives at a list. -/
def Listless (root : Value) : Prop :=
  ∀ segments, (root.walk? segments).bind items? = none

theorem Listless.lookupItems {root : Value} (listless : root.Listless) (path : Text) :
    root.lookupItems path = none :=
  listless (Path.segments path)

theorem listless_text (content : Text) : (text content).Listless
  | [] => rfl
  | _ :: _ => rfl

theorem listless_record {fields : List (Text × Value)}
    (each : ∀ field ∈ fields, field.2.Listless) : (record fields).Listless
  | [] => rfl
  | segment :: rest => by
    rw [walk?_record_cons]
    cases found : fields.lookup segment with
    | none => rfl
    | some field => exact each _ (Fields.mem_of_lookup found) rest

theorem listless_ofFields {pairs : List (Text × Value)}
    (each : ∀ field ∈ pairs, field.2.Listless) : (ofFields pairs).Listless :=
  listless_record fun field member => each field (Fields.mem_ofList member)

end Value

section Listless

variable {first second : Value} (firstListless : first.Listless) (secondListless : second.Listless)

include firstListless secondListless

/-- Without lists the data have no part in what takes the place of a block. -/
theorem Block.expansion_eq_of_listless (block : Block) :
    block.expansion first = block.expansion second := by
  simp only [expansion, firstListless.lookupItems, secondListless.lookupItems]

theorem Render.expand_eq_of_listless (kind : BlockKind) (text : Text) :
    expand kind first text = expand kind second text := by
  simp only [expand, Block.expansion_eq_of_listless firstListless secondListless]

/-- Without lists the data have no part in what is left of a template after both passes over
blocks. -/
theorem Render.afterBlocks_eq_of_listless (template : Text) :
    afterBlocks first template = afterBlocks second template := by
  simp only [afterBlocks, afterEach, expand_eq_of_listless firstListless secondListless]

end Listless

/-! ### The data of the fallback -/

/-- Only the walk that goes nowhere arrives at a text from a text. -/
theorem Value.walk?_text_bind_text? (content : Text) (segments : List Text) :
    ((text content).walk? segments).bind text? = if segments = [] then some content else none := by
  cases segments <;> rfl

namespace LoadError

/-- The segments that lead to the name in the data of the fallback. -/
def filenameSegments : List Text := ["error".toList, "filename".toList]

/-- The segments that lead to the reason in the data of the fallback. -/
def messageSegments : List Text := ["error".toList, "message".toList]

theorem listless_context (error : LoadError) (name : Text) : (error.context name).Listless := by
  refine Value.listless_ofFields (List.forall_mem_singleton.2 (Value.listless_ofFields ?_))
  exact List.forall_mem_cons.2
    ⟨Value.listless_text _, List.forall_mem_singleton.2 (Value.listless_text _)⟩

theorem context_eq (error : LoadError) (name : Text) :
    error.context name = .record [("error".toList, .record
      [("filename".toList, .text name), ("message".toList, .text error.message.toList)])] :=
  rfl

/-- In the data of the fallback a path leads to the name, to the reason, or to no text. -/
theorem lookupText_context (error : LoadError) (name path : Text) :
    (error.context name).lookupText path =
      if Path.segments path = filenameSegments then some name
      else if Path.segments path = messageSegments then some error.message.toList
      else none := by
  have apart : "message".toList ≠ "filename".toList := by decide
  rw [context_eq, Value.lookupText, Value.lookup, filenameSegments, messageSegments]
  generalize "error".toList = whole, "filename".toList = filename, "message".toList = message at *
  -- Fewer than two segments lead to a record, and a text leads nowhere beyond itself.
  cases Path.segments path with
  | nil => rfl
  | cons outer rest =>
    rw [Value.walk?_record_cons]
    by_cases inside : outer = whole
    · subst inside
      rw [List.lookup_cons_self, Option.bind_some]
      cases rest with
      | nil => simp [Value.text?]
      | cons inner deeper =>
        rw [Value.walk?_record_cons]
        by_cases isFilename : inner = filename
        · subst isFilename
          rw [List.lookup_cons_self, Option.bind_some, Value.walk?_text_bind_text?]
          simp [apart.symm]
        · rw [List.lookup_cons, beq_false_of_ne isFilename]
          by_cases isMessage : inner = message
          · subst isMessage
            rw [List.lookup_cons_self, Option.bind_some, Value.walk?_text_bind_text?]
            simp [apart]
          · simp [List.lookup_cons, isFilename, isMessage, beq_false_of_ne]
    · simp [List.lookup_cons, inside, beq_false_of_ne]

/-- The text of a piece of the fallback: a placeholder whose path leads to the name or to the
reason gives way to it as it is, and every other piece stays as it is written. -/
def fillPiece (name reason : Text) : Piece → Text
  | .literal content => content
  | .placeholder content =>
    if Path.segments content.trim = filenameSegments then name
    else if Path.segments content.trim = messageSegments then reason
    else Placeholder.written content

theorem fill_context (error : LoadError) (name : Text) :
    Piece.fill [error.context name] = fillPiece name error.message.toList := by
  funext piece
  cases piece with
  | literal content => rfl
  | placeholder content =>
    rw [Piece.fill, List.findSome?_singleton, lookupText_context, fillPiece]
    split
    · rfl
    · split <;> rfl

end LoadError

/-! ### The page of a failed load -/

namespace Views

/-- A load that fails gives the page of the fallback. -/
theorem renderValue_of_error {Source : Type} [TemplateSource Source] {views : Views Source}
    {name : Text} {error : LoadError}
    (failed : (TemplateSource.load views.source name).1 = .error error) (context : Value) :
    (views.renderValue name context).1 = Render.page (error.context name) views.fallback := by
  simp only [renderValue, load, failed, pageOf]

end Views

/-- The page of the default fallback is a fixed text around the name. -/
theorem Render.page_defaultFallback (error : LoadError) (name : Text) :
    page (error.context name) defaultFallback =
      "<h1>Rendering error</h1>\n<p>The template <code>".toList ++ name ++
        "</code> could not be loaded.</p>\n".toList := by
  have noOpener (kind : BlockKind) :
      Text.cut? kind.opener (Placeholder.written " error.filename ".toList) = none := by
    cases kind <;> decide
  have read : Placeholder.read? (Placeholder.written " error.filename ".toList ++ []) =
      some (" error.filename ".toList, []) :=
    Placeholder.read?_written (by decide) (by decide) []
  have named : Path.segments (Text.trim " error.filename ".toList) =
      LoadError.filenameSegments := by
    decide
  have filled :
      page (error.context name) (Placeholder.written " error.filename ".toList) = name := by
    rw [page, afterBlocks, afterEach, expand_of_no_opener _ (noOpener .each),
      expand_of_no_opener _ (noOpener .loop), ← List.append_nil (Placeholder.written _),
      interpolate_of_read? _ read, LoadError.lookupText_context, if_pos named, interpolate_nil,
      List.append_nil]
    rfl
  have noOpening : '{' ∉ "<h1>Rendering error</h1>\n<p>The template <code>".toList := by decide
  have noClosing : '}' ∉ "</code> could not be loaded.</p>\n".toList := by decide
  unfold defaultFallback
  rw [page_append_of_not_mem _ _ noClosing, page_append _ noOpening, filled]

/-- A fallback never reads the name or the reason of a failed load. Whatever they are, the passes
over blocks make one and the same text of the fallback. It is a row of pieces whose placeholders
are those that filling finds there, and the page of every failed load is that row with the name
and the reason put in, as they are, for the placeholders whose paths lead to them. The default
fallback is a fixed text around the name. -/
theorem renderValue_of_failed_load :
    (∀ fallback : Text, ∃ (expanded : Text) (pieces : List Piece),
      (∀ (name : Text) (error : LoadError),
        Render.afterBlocks (error.context name) fallback = expanded) ∧
      pieces.flatMap Piece.written = expanded ∧
      pieces.filterMap Piece.path? = (Placeholder.scan expanded).map Placeholder.path ∧
      ∀ (Source : Type) [TemplateSource Source] (source : Source) (name : Text) (context : Value)
        (error : LoadError), (TemplateSource.load source name).1 = .error error →
        let page := ((⟨source, fallback⟩ : Views Source).renderValue name context).1
        page = Render.interpolate (error.context name) expanded ∧
          page = pieces.flatMap (LoadError.fillPiece name error.message.toList)) ∧
    ∀ (Source : Type) [TemplateSource Source] (source : Source) (name : Text) (context : Value)
      (error : LoadError), (TemplateSource.load source name).1 = .error error →
      ((⟨source, defaultFallback⟩ : Views Source).renderValue name context).1 =
        "<h1>Rendering error</h1>\n<p>The template <code>".toList ++ name ++
          "</code> could not be loaded.</p>\n".toList := by
  refine ⟨fun fallback => ?_, fun Source _ source name context error failed => ?_⟩
  · -- The passes over blocks give what they give without any data.
    let expanded := Render.afterBlocks (.record []) fallback
    have same (name : Text) (error : LoadError) :
        Render.afterBlocks (error.context name) fallback = expanded :=
      Render.afterBlocks_eq_of_listless (error.listless_context name)
        (Value.listless_record (List.forall_mem_nil _)) fallback
    refine ⟨expanded, Piece.ofText expanded, same, Piece.flatMap_written_ofText expanded,
      Piece.filterMap_path?_ofText 0 expanded, ?_⟩
    intro Source _ source name context error failed page
    have filled : page = Render.interpolate (error.context name) expanded := by
      rw [← same name error]
      exact Views.renderValue_of_error failed context
    refine ⟨filled, ?_⟩
    rw [filled, Piece.interpolate_eq_flatMap_fill, LoadError.fill_context]
  · rw [Views.renderValue_of_error failed]
    exact Render.page_defaultFallback error name

/-- A name that is spelled like a marker stands twice in the page as it is spelled, and a block
over the whole of the data is removed. -/
theorem renderValue_of_failed_load_marker :
    let source : MemorySource := .ofList []
    let fallback := Block.written .each ".".toList "x".toList ++
      Block.written .loop "1...2".toList (Placeholder.written "error.filename".toList)
    let name := Placeholder.written "error.message".toList
    (TemplateSource.load source name).1 = .error (.notFound name) ∧
      ((⟨source, fallback⟩ : Views MemorySource).renderValue name (.record [])).1 =
        name ++ name ∧
      ((⟨source, defaultFallback⟩ : Views MemorySource).renderValue name (.record [])).1 =
        "<h1>Rendering error</h1>\n<p>The template <code>".toList ++ name ++
          "</code> could not be loaded.</p>\n".toList := by
  intro source fallback name
  have failed : (TemplateSource.load source name).1 = .error (.notFound name) := rfl
  refine ⟨failed, ?_, renderValue_of_failed_load.2 MemorySource source name (.record []) _ failed⟩
  obtain ⟨expanded, pieces, same, -, -, filled⟩ := renderValue_of_failed_load.1 fallback
  refine (filled MemorySource source name (.record []) _ failed).1.trans ?_
  rw [← same name (.notFound name)]
  decide +kernel

end Stencil
