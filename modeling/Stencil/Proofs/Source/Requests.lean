/-
This file settles what a request for a page does to the source of the templates. A context
that is none is refused before the source is asked for anything, so such a request cannot
be noticed afterwards. Every other context gives a page, and the request is one load of its
name, whether the load succeeds or fails. In a run of operations each rendering may
therefore be replaced by its load, or left out when its context is refused.
-/

import Stencil.Proofs.Source.Runs

namespace Stencil

/-! ### Views over any source -/

section Views

variable {Source : Type} [TemplateSource Source]

namespace Views

/-- A context is refused exactly when it is a number, a boolean or null. -/
theorem exists_render_eq_error_iff (views : Views Source) (name : Text) (context : Json) :
    (∃ error, (views.render name context).1 = .error error) ↔
      context.kind = .number ∨ context.kind = .boolean ∨ context.kind = .null := by
  rw [← Value.ofJson?_eq_none_iff]
  cases converted : Value.ofJson? context with
  | none => simp [render_of_refused converted]
  | some root => simp [render_of_value converted]

end Views

/-! ### Watching a source -/

/-- A source together with the names that it was asked for, in the order of the loads. -/
structure WatchedSource (Source : Type) where
  source : Source
  asked : List Text

instance : TemplateSource (WatchedSource Source) where
  load watched name :=
    let (loaded, source) := TemplateSource.load watched.source name
    (loaded, ⟨source, watched.asked ++ [name]⟩)

/-- Watching a source changes no answer. It shows that a source is asked once for the name, and
not at all when the context is refused. -/
theorem Views.render_watched (watched : WatchedSource Source) (fallback name : Text)
    (context : Json) :
    let plain := (⟨watched.source, fallback⟩ : Views Source).render name context
    (⟨watched, fallback⟩ : Views (WatchedSource Source)).render name context =
      (plain.1, ⟨⟨plain.2.source,
        if (Value.ofJson? context).isSome then watched.asked ++ [name] else watched.asked⟩,
        fallback⟩) := by
  cases converted : Value.ofJson? context with
  | none => simp [render_of_refused converted]
  | some root =>
    simp only [render_of_value converted]
    rfl

end Views

/-! ### Runs over a directory -/

/-- The operation that leaves a session as another does but renders nothing: a rendering gives
way to the load that it makes, or to nothing when its context is refused. -/
def Operation.withoutRendering? : Operation → Option Operation
  | .render name context => (Value.ofJson? context).map fun _ => .load name
  | .renderValue name _ => some (.load name)
  | operation => some operation

namespace Session

/-- What the operations of a run answer, one after the other. -/
def answers (session : Session) : List Operation → List Answer
  | [] => []
  | operation :: later => (session.run operation).1 :: (session.run operation).2.answers later

/-- An operation leaves the session as it does without rendering. -/
theorem run_eq_runAll_withoutRendering? (session : Session) (operation : Operation) :
    (session.run operation).2 = session.runAll operation.withoutRendering?.toList := by
  cases operation with
  | render name context =>
    rw [Operation.withoutRendering?]
    cases converted : Value.ofJson? context with
    | none =>
      rw [run_render_of_refused converted]
      rfl
    | some root =>
      rw [run_render_of_value converted]
      rfl
  | _ => rfl

/-- A run leaves the session as the run does in which every rendering gives way to its load. -/
theorem runAll_eq_runAll_filterMap (session : Session) (operations : List Operation) :
    session.runAll operations =
      session.runAll (operations.filterMap Operation.withoutRendering?) := by
  induction operations generalizing session with
  | nil => rfl
  | cons operation later inductionHypothesis =>
    calc session.runAll (operation :: later)
        = (session.run operation).2.runAll later := rfl
      _ = (session.run operation).2.runAll (later.filterMap Operation.withoutRendering?) :=
          inductionHypothesis _
      _ = (session.runAll operation.withoutRendering?.toList).runAll
            (later.filterMap Operation.withoutRendering?) := by
          rw [run_eq_runAll_withoutRendering?]
      _ = session.runAll ((operation :: later).filterMap Operation.withoutRendering?) := by
          rw [List.filterMap_cons]
          cases operation.withoutRendering? <;> rfl

end Session

/-! ### One load or none -/

/-- A request for a page is refused exactly when its context is a number, a boolean or null, and
then leaves the views as they were, without asking the source. Every other request gives a page,
of the template when the load of its name succeeds and of the fallback when it fails for whatever
reason, and asks the source once, which it leaves as that load does. So in every run over a
directory a refused request changes no later answer, any other changes them as its load would, and
the run leaves the source as one does that renders nothing. -/
theorem render_asks_once_or_never :
    (∀ (Source : Type) [TemplateSource Source] (views : Views Source) (name : Text)
      (context : Json),
      ((∃ error, (views.render name context).1 = .error error) ↔
        context.kind = .number ∨ context.kind = .boolean ∨ context.kind = .null) ∧
      (Value.ofJson? context = none →
        views.render name context = (.error ⟨context.kind⟩, views)) ∧
      ∀ root, Value.ofJson? context = some root →
        (views.render name context).2 = (views.load name).2 ∧
        (∀ template, (views.load name).1 = .ok template →
          (views.render name context).1 = .ok (render root template).output) ∧
        ∀ error, (views.load name).1 = .error error →
          (views.render name context).1 =
            .ok (render (error.context name) views.fallback).output) ∧
    (∀ (Source : Type) [TemplateSource Source] (watched : WatchedSource Source)
      (fallback name : Text) (context : Json),
      let plain := (⟨watched.source, fallback⟩ : Views Source).render name context
      (⟨watched, fallback⟩ : Views (WatchedSource Source)).render name context =
        (plain.1, ⟨⟨plain.2.source,
          if (Value.ofJson? context).isSome then watched.asked ++ [name] else watched.asked⟩,
          fallback⟩)) ∧
    ∀ (disk : Disk) (directory : Text) (caching : Bool) (fallback : Text)
      (earlier : List Operation),
      let start := Session.start disk directory caching fallback
      let session := start.runAll earlier
      session = start.runAll (earlier.filterMap Operation.withoutRendering?) ∧
      ∀ (name : Text) (context : Json) (later : List Operation),
        (Value.ofJson? context = none →
          session.runAll (.render name context :: later) = session.runAll later ∧
          session.answers (.render name context :: later) =
            .rendered (.error ⟨context.kind⟩) :: session.answers later) ∧
        ∀ root, Value.ofJson? context = some root →
          session.runAll (.render name context :: later) =
            session.runAll (.load name :: later) ∧
          session.answers (.render name context :: later) =
            .rendered (session.views.render name context).1 ::
              (session.run (.load name)).2.answers later := by
  refine ⟨fun Source _ views name context => ?_, fun Source _ => Views.render_watched, ?_⟩
  · refine ⟨views.exists_render_eq_error_iff name context,
      fun refused => Views.render_of_refused refused views name, fun root converted => ?_⟩
    rw [Views.render_of_value converted]
    refine ⟨rfl, fun template loaded => ?_, fun error failed => ?_⟩
    · rw [loaded]
      rfl
    · rw [failed]
      rfl
  · intro disk directory caching fallback earlier start session
    refine ⟨start.runAll_eq_runAll_filterMap earlier, fun name context later => ?_⟩
    refine ⟨fun refused => ?_, fun root converted => ?_⟩
    · have ran := Session.run_render_of_refused refused session name
      rw [Session.answers, Session.runAll, List.foldl_cons, ran]
      exact ⟨rfl, rfl⟩
    · have ran := Session.run_render_of_value converted session name
      rw [Session.answers, Session.runAll, List.foldl_cons, ran]
      exact ⟨rfl, rfl⟩

/-- A template that is there, one that is missing and a context that is refused; and over a
directory without files a refused request between two loads, and one that is not refused. -/
theorem render_asks_once_or_never_greeting :
    let template := "Hello ".toList ++ Placeholder.written "name".toList
    let fallback := "missing ".toList ++ Placeholder.written "error.filename".toList
    let views : Views MemorySource := ⟨.ofList [("hello".toList, template)], fallback⟩
    let context : Json := .object [("name".toList, .string "Ada".toList)]
    let load : Operation := .load "hello".toList
    let session := (Session.start .empty "views".toList true fallback).runAll [load]
    (views.render "hello".toList context).1 = .ok "Hello Ada".toList ∧
      (views.render "nope".toList context).1 = .ok "missing nope".toList ∧
      views.render "hello".toList .null = (.error ⟨.null⟩, views) ∧
      session.answers [.render "hello".toList .null, load] =
        .rendered (.error ⟨.null⟩) :: session.answers [load] ∧
      session.runAll [.render "hello".toList context, load] = session.runAll [load, load] := by
  intro template fallback views context load session
  let root : Value := .record [("name".toList, .text "Ada".toList)]
  have converted : Value.ofJson? context = some root := rfl
  have refused : Value.ofJson? .null = none := rfl
  have found : (views.load "hello".toList).1 = .ok template := rfl
  have missing : (views.load "nope".toList).1 = .error (.notFound "nope".toList) := rfl
  obtain ⟨ofViews, -, ofRuns⟩ := render_asks_once_or_never
  obtain ⟨-, untouched, -⟩ := ofViews MemorySource views "hello".toList .null
  obtain ⟨-, greets, -⟩ := (ofViews MemorySource views "hello".toList context).2.2 root converted
  obtain ⟨-, -, falls⟩ := (ofViews MemorySource views "nope".toList context).2.2 root converted
  obtain ⟨-, requests⟩ := ofRuns .empty "views".toList true fallback [load]
  refine ⟨(greets template found).trans ?_, (falls _ missing).trans ?_, untouched refused, ?_, ?_⟩
  · exact congrArg Except.ok (by decide +kernel)
  · exact congrArg Except.ok (by decide +kernel)
  · exact ((requests "hello".toList .null [load]).1 refused).2
  · exact ((requests "hello".toList context [load]).2 root converted).1

end Stencil
