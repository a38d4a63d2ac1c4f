/-
This file shows that a name leads nowhere but below the directory of the templates. A
name is accepted by its spelling alone, and the path of an accepted name goes down from
the directory. A load looks at what is remembered before it looks at the name; this
lets no other name through, because only what was read from a file is remembered, and
only the file of an accepted name is read.
-/

import Stencil.Proofs.Source.Paths
import Stencil.Proofs.Source.Runs

namespace Stencil

namespace DirectorySource

/-- Every name under which the source remembers a template stays inside. -/
def RemembersInside (source : DirectorySource) : Prop :=
  ∀ name ∈ source.cache.names, FilePath.staysInside name

theorem RemembersInside.remember {source : DirectorySource} {name : Text}
    (remembers : source.RemembersInside) (inside : FilePath.staysInside name) (template : Text) :
    (source.remember name template).RemembersInside := by
  rw [DirectorySource.remember]
  split
  · intro other member
    rcases Fields.mem_names_put.1 member with rfl | earlier
    · exact inside
    · exact remembers other earlier
  · exact remembers

theorem RemembersInside.load (source : DirectorySource) (files : Files) (name : Text)
    (remembers : source.RemembersInside) : (source.load files name).2.RemembersInside :=
  load_keeps RemembersInside remembers fun template read =>
    remembers.remember (accepts_iff.1 (readFile_eq_ok_iff.1 read).1) template

/-- A name that is not accepted is refused, whatever the files hold. -/
theorem RemembersInside.load_of_not_accepts {source : DirectorySource} {name : Text}
    (remembers : source.RemembersInside) (refused : ¬ source.Accepts name) (files : Files) :
    source.load files name = (.error (.invalidName name), source) := by
  have fresh : source.remembered? name = none := by
    rw [remembered?]
    split
    · refine Option.not_isSome_iff_eq_none.1 fun found => refused ?_
      exact accepts_iff.2 (remembers name (Fields.mem_names_iff.2 found))
    · rfl
  rw [DirectorySource.load, fresh, readFile_of_not_accepts refused]

end DirectorySource

/-- After every run only names that stay inside are remembered. -/
theorem Session.remembersInside_runAll (disk : Disk) (root : Text) (caching : Bool)
    (fallback : Text) (operations : List Operation) :
    ((start disk root caching fallback).runAll operations).source.RemembersInside := by
  have nothing (source : DirectorySource) (empty : source.cache = []) :
      source.RemembersInside := by
    intro name member
    rw [empty] at member
    exact absurd member List.not_mem_nil
  exact runAll_keeps DirectorySource.RemembersInside DirectorySource.RemembersInside.load
    (fun _ _ => nothing _ rfl) _ operations (nothing _ rfl)

/-- Names do not lead out of the directory of the templates. A source accepts a name exactly when
it is not empty, begins with no slash and has no part of two points. The path of an accepted
name leads along its parts that go anywhere, down from where the directory leads, and is below
it all the way. After every run of operations the directory is the same, the names of the
templates that are remembered are accepted, and asking for a name that is not accepted gives an
error and changes nothing. -/
theorem names_stay_below_root :
    (∀ (source : DirectorySource) (name : Text), source.Accepts name ↔
      name ≠ [] ∧ name.head? ≠ some '/' ∧ FilePath.up ∉ FilePath.parts name) ∧
    (∀ (source : DirectorySource) (name path : Text), source.path? name = .ok path →
      FilePath.isAbsolute path = FilePath.isAbsolute source.root ∧
      FilePath.normalize path = FilePath.normalize source.root ++ FilePath.names name ∧
      ∀ passed, passed <+: FilePath.parts name → FilePath.normalize source.root <+:
        passed.foldl (FilePath.normalizeStep (FilePath.isAbsolute path))
          (FilePath.normalize source.root)) ∧
    ∀ (disk : Disk) (root : Text) (caching : Bool) (fallback : Text)
      (operations : List Operation),
      let session := (Session.start disk root caching fallback).runAll operations
      session.source.root = root ∧
      (∀ name ∈ session.source.cache.names, session.source.Accepts name) ∧
      ∀ name, ¬ session.source.Accepts name →
        session.run (.load name) = (.loaded (.error (.invalidName name)), session) ∧
        session.run (.loadView name) = (.loaded (.error (.invalidName name)), session) := by
  refine ⟨fun source name => ?_, fun source name path accepted => ?_, ?_⟩
  · rw [DirectorySource.accepts_iff, FilePath.staysInside_iff]
  · obtain ⟨inside, rfl⟩ := DirectorySource.path?_eq_ok_iff.1 accepted
    have relative := (FilePath.staysInside_iff.1 inside).2.1
    rw [FilePath.isAbsolute_join relative]
    refine ⟨rfl, FilePath.normalize_join_of_staysInside inside source.root, ?_⟩
    exact fun passed front => FilePath.normalize_prefix_of_staysInside inside source.root front
  · intro disk root caching fallback operations session
    have remembers := Session.remembersInside_runAll disk root caching fallback operations
    refine ⟨Session.root_runAll _ operations, ?_, ?_⟩
    · exact fun name member => DirectorySource.accepts_iff.2 (remembers name member)
    · intro name refused
      rw [Session.run_loadView, Session.run_load,
        remembers.load_of_not_accepts refused session.disk.read]
      exact ⟨rfl, rfl⟩

/-- Points and slashes that lead nowhere are no hindrance; a way out is, also one that leads
back in. -/
theorem names_stay_below_root_dotted :
    let source := DirectorySource.ofRoot "site/../views".toList true
    source.Accepts "./a//b/.".toList ∧
      FilePath.normalize (FilePath.join source.root "./a//b/.".toList) =
        ["views".toList, "a".toList, "b".toList] ∧
      ¬ source.Accepts "a/../b".toList := by
  intro source
  obtain ⟨accepts, located, -⟩ := names_stay_below_root
  refine ⟨(accepts _ _).2 (by decide), ?_, fun accepted => ?_⟩
  · exact (located source "./a//b/.".toList _ rfl).2.1.trans (by decide)
  · exact absurd ((accepts _ _).1 accepted) (by decide)

end Stencil
