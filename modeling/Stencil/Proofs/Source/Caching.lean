/-
This file compares what a source remembers with the loads that succeeded. The loads of a
run, made by whatever operation, are written down in a log, which begins anew where the
source is told to forget. A source that remembers holds exactly the names of the log,
each with the template that its first load gave, so the files have no part any more in
what a later load of such a name gives. A load that fails leaves no trace, and a source
that does not remember answers from the files alone.
-/

import Mathlib.Data.List.Dedup
import Stencil.Proofs.Source.Runs

namespace Stencil

/-- The loads that succeeded: the names that were asked for and the templates that were given,
in the order of the loads. -/
abbrev LoadLog := Fields Text

namespace Session

/-! ### The log of a run -/

/-- The load with success that an operation makes. -/
def success? (session : Session) (operation : Operation) : Option (Text × Text) :=
  operation.asked?.bind fun name =>
    (session.source.load session.disk.read name).1.toOption.map fun template => (name, template)

/-- The log after one more operation. -/
def logStep (session : Session) (log : LoadLog) : Operation → LoadLog
  | .clearCache => []
  | operation => log ++ (session.success? operation).toList

/-- The log after a run of operations. -/
def logFrom (session : Session) (log : LoadLog) : List Operation → LoadLog
  | [] => log
  | operation :: later => (session.run operation).2.logFrom (session.logStep log operation) later

/-- The log of a run from its start. -/
def log (session : Session) (operations : List Operation) : LoadLog :=
  session.logFrom [] operations

theorem logStep_of_ne_clearCache (session : Session) (log : LoadLog) {operation : Operation}
    (keeps : operation ≠ .clearCache) :
    session.logStep log operation = log ++ (session.success? operation).toList := by
  cases operation <;> first | rfl | contradiction

/-- While nothing is forgotten the log only grows. -/
theorem prefix_logFrom (session : Session) (log : LoadLog) {operations : List Operation}
    (keeps : .clearCache ∉ operations) : log <+: session.logFrom log operations := by
  induction operations generalizing session log with
  | nil => exact List.prefix_refl log
  | cons operation later inductionHypothesis =>
    obtain ⟨differ, laterKeeps⟩ := List.ne_and_not_mem_of_not_mem_cons keeps
    rw [logFrom, session.logStep_of_ne_clearCache log differ.symm]
    exact (List.prefix_append _ _).trans (inductionHypothesis _ _ laterKeeps)

end Session

/-! ### A source that remembers -/

/-- A source remembers the loads of a log: each name with the template of its first load. -/
structure DirectorySource.Remembers (source : DirectorySource) (log : LoadLog) : Prop where
  caching : source.caching = true
  lookup_eq : ∀ name, source.cache.lookup name = log.lookup name
  ordered : source.cache.Ordered

namespace DirectorySource.Remembers

variable {source : DirectorySource} {log : LoadLog}

theorem remembered?_eq (remembers : source.Remembers log) (name : Text) :
    source.remembered? name = log.lookup name := by
  rw [remembered?, if_pos remembers.caching, remembers.lookup_eq]

/-- A load that is answered from what is remembered adds nothing. -/
theorem append_of_lookup {name template : Text} (remembers : source.Remembers log)
    (found : log.lookup name = some template) : source.Remembers (log ++ [(name, template)]) := by
  refine ⟨remembers.caching, fun other => ?_, remembers.ordered⟩
  rw [List.lookup_append, remembers.lookup_eq]
  by_cases same : other = name
  · rw [same, found, Option.some_or]
  · rw [List.lookup_singleton, if_neg (by simpa using same), Option.or_none]

/-- A name that is read for the first time is remembered with what was read. -/
theorem append_of_fresh {name : Text} (remembers : source.Remembers log)
    (fresh : log.lookup name = none) (template : Text) :
    (source.remember name template).Remembers (log ++ [(name, template)]) := by
  rw [remember, if_pos remembers.caching]
  refine ⟨remembers.caching, fun other => ?_, remembers.ordered.put name template⟩
  show (source.cache.put name template).lookup other = _
  rw [List.lookup_append]
  by_cases same : other = name
  · rw [same, fresh, Fields.lookup_put_self, Option.none_or, List.lookup_singleton,
      if_pos (beq_self_eq_true name)]
  · rw [Fields.lookup_put_of_ne same, remembers.lookup_eq, List.lookup_singleton,
      if_neg (by simpa using same), Option.or_none]

/-- After a load the source remembers the log with that load, if it succeeded. -/
theorem load (remembers : source.Remembers log) (files : Files) (name : Text) :
    (source.load files name).2.Remembers (log ++
      ((source.load files name).1.toOption.map fun template => (name, template)).toList) := by
  rcases cases_load files source name with
    ⟨template, remembered, loaded⟩ | ⟨fresh, template, -, loaded⟩ | ⟨-, error, -, loaded⟩
  · rw [remembers.remembered?_eq] at remembered
    rw [loaded]
    exact remembers.append_of_lookup remembered
  · rw [remembers.remembered?_eq] at fresh
    rw [loaded]
    exact remembers.append_of_fresh fresh template
  · rw [loaded]
    simpa [Except.toOption] using remembers

/-- The names that are remembered are those of the log, each once. -/
theorem names_perm (remembers : source.Remembers log) :
    source.cache.names.Perm (Fields.names log).dedup := by
  have distinct : source.cache.names.Nodup := remembers.ordered.nodup
  refine (List.perm_ext_iff_of_nodup distinct (List.nodup_dedup _)).2 fun name => ?_
  rw [List.mem_dedup, Fields.mem_names_iff, Fields.mem_names_iff, remembers.lookup_eq]

end DirectorySource.Remembers

namespace Session

theorem remembers_run (session : Session) {log : LoadLog} (operation : Operation)
    (remembers : session.source.Remembers log) :
    (session.run operation).2.source.Remembers (session.logStep log operation) := by
  rcases cases_run session operation with
    ⟨name, asked, changed⟩ | ⟨rfl, changed⟩ | ⟨keeps, silent, changed⟩
  · have keeps : operation ≠ .clearCache := by
      rintro rfl
      contradiction
    rw [changed, session.logStep_of_ne_clearCache log keeps, success?, asked]
    exact remembers.load session.disk.read name
  · rw [changed]
    exact ⟨remembers.caching, fun _ => rfl, Fields.ordered_nil⟩
  · rw [changed, session.logStep_of_ne_clearCache log keeps, success?, silent]
    simpa using remembers

/-- After a run the source remembers the log of the run. -/
theorem remembers_runAll (session : Session) {log : LoadLog} (operations : List Operation)
    (remembers : session.source.Remembers log) :
    (session.runAll operations).source.Remembers (session.logFrom log operations) := by
  induction operations generalizing session log with
  | nil => exact remembers
  | cons operation later inductionHypothesis =>
    exact inductionHypothesis _ (session.remembers_run operation remembers)

theorem remembers_start (disk : Disk) (root fallback : Text) :
    (start disk root true fallback).source.Remembers [] :=
  ⟨rfl, fun _ => rfl, Fields.ordered_nil⟩

/-! ### A source that does not remember -/

/-- A source that does not remember never holds anything. -/
theorem forgets_runAll (disk : Disk) (root fallback : Text) (operations : List Operation) :
    let source := ((start disk root false fallback).runAll operations).source
    source.caching = false ∧ source.cache = [] := by
  refine runAll_keeps (fun source => source.caching = false ∧ source.cache = []) ?_ ?_ _ operations
    ⟨rfl, rfl⟩
  · intro source files name forgets
    rw [DirectorySource.load_of_not_caching forgets.1]
    exact forgets
  · exact fun source forgets => ⟨forgets.1, rfl⟩

end Session

/-- What a directory of templates remembers is what was loaded. With caching, after every run of
operations, the cache holds the names of the log of the run, each with the template of its
first load, and as many as there are different names in the log. As long as nothing is
forgotten every later load of such a name gives that template, whatever the files hold.
Any other name is decided by the files. A load that fails, whichever operation makes it,
changes nothing, and the name is decided by the files again. Without caching the cache
stays empty and every load gives what the files hold. -/
theorem cache_holds_first_loads (disk : Disk) (root fallback : Text)
    (operations : List Operation) :
    (let session := (Session.start disk root true fallback).runAll operations
      let log := (Session.start disk root true fallback).log operations
      (∀ name, session.source.cache.lookup name = log.lookup name) ∧
      session.source.cache.names.Perm (Fields.names log).dedup ∧
      session.source.cachedSize = (Fields.names log).dedup.length ∧
      (∀ name template, log.lookup name = some template →
        ∀ later, .clearCache ∉ later → ∀ files,
          (session.runAll later).source.load files name =
            (.ok template, (session.runAll later).source)) ∧
      (∀ name, log.lookup name = none → ∀ files,
        (session.source.load files name).1 = session.source.readFile files name) ∧
      ∀ operation name error, operation.asked? = some name →
        (session.source.load session.disk.read name).1 = .error error →
          (session.run operation).2 = session ∧ ∀ files,
            (session.source.load files name).1 = session.source.readFile files name) ∧
    let session := (Session.start disk root false fallback).runAll operations
    session.source.cache = [] ∧ ∀ name, session.source.load session.disk.read name =
      (session.source.readFile session.disk.read name, session.source) := by
  constructor
  · intro session log
    have remembers : session.source.Remembers log :=
      Session.remembers_runAll _ operations (Session.remembers_start disk root fallback)
    have listed := remembers.names_perm
    refine ⟨remembers.lookup_eq, listed, ?_, ?_, ?_, ?_⟩
    · rw [← listed.length_eq, DirectorySource.cachedSize, Fields.names, List.length_map]
    · intro name template found later keeps files
      have further := Session.remembers_runAll session later remembers
      refine DirectorySource.load_of_remembered ?_ files
      rw [further.remembered?_eq]
      exact (Session.prefix_logFrom session log keeps).lookup_eq_some found
    · intro name absent files
      refine DirectorySource.load_of_not_remembered ?_ files
      rw [remembers.remembered?_eq, absent]
    · intro operation name error asked failed
      obtain ⟨kept, fresh⟩ := DirectorySource.eq_of_load_error failed
      refine ⟨?_, DirectorySource.load_of_not_remembered fresh⟩
      rw [Session.run_of_asked asked, kept]
  · intro session
    obtain ⟨notCaching, empty⟩ := Session.forgets_runAll disk root fallback operations
    exact ⟨empty, DirectorySource.load_of_not_caching notCaching session.disk.read⟩

/-- A page that was read is given as it was although its file holds another by now. -/
theorem cache_holds_first_loads_rewritten :
    let operations : List Operation := [.write "page".toList "old".toUTF8, .load "page".toList,
      .load "none".toList, .write "page".toList "new".toUTF8]
    let session := (Session.start .empty [] true []).runAll operations
    session.disk.read "page".toList = .ok "new".toList ∧ session.source.cachedSize = 1 ∧
      ∀ files, session.source.load files "page".toList = (.ok "old".toList, session.source) := by
  intro operations session
  obtain ⟨⟨-, -, counted, given, -, -⟩, -⟩ := cache_holds_first_loads .empty [] [] operations
  have overwritten : session.disk.read "page".toList = .ok "new".toList := by decide +kernel
  have logged : (Session.start .empty [] true []).log operations =
      [("page".toList, "old".toList)] := by decide +kernel
  rw [logged] at counted given
  exact ⟨overwritten, counted, given "page".toList "old".toList rfl [] List.not_mem_nil⟩

end Stencil
