/-
This file shows that every document that is read is ordered: the members of an object
become fields, in whatever order they are written. What each document has that a reader
gives, all items of a list and all members of an object have that are read with it, so
the proof follows the depth to which containers stand within one another.
-/

import Stencil.Json.Reader

namespace Stencil

namespace Json

/-! ### What a reading gives -/

/-- If a reading gives something, it has a property. -/
def Reading.Gives {Item : Type} {source : Text} (Holds : Item → Prop)
    (reading : Reading Item source) : Prop :=
  ∀ read, reading = .ok read → Holds read.1

namespace Reading

variable {Item Other : Type} {inner outer : Text} {Holds : Item → Prop} {Also : Other → Prop}
  {reading : Reading Item inner}

theorem gives_error (fault : Fault) : Gives Holds (.error fault : Reading Item inner) :=
  nofun

theorem gives_ok {item : Item} (holds : Holds item) (rest : Rest inner) :
    Gives Holds (.ok (item, rest)) := by
  rintro _ ⟨⟩
  exact holds

theorem Gives.map {change : Item × Rest inner → Other × Rest outer} (gives : Gives Holds reading)
    (passes : ∀ read, Holds read.1 → Also (change read).1) :
    Gives Also (Except.map change reading) := by
  cases reading with
  | error fault => exact gives_error fault
  | ok read =>
    rintro _ ⟨⟩
    exact passes read (gives read rfl)

theorem Gives.widen (gives : Gives Holds reading) (bound : inner.length ≤ outer.length) :
    Gives Holds (reading.widen bound) :=
  gives.map fun _ holds => holds

end Reading

open Reading

/-! ### Containers -/

section Containers

variable {Holds : Json → Prop} {readItem : (source : Text) → Reading Json source}

theorem gives_readMoreItems (gives : ∀ source, Gives Holds (readItem source)) (source : Text) :
    Gives (fun items => ∀ item ∈ items, Holds item) (readMoreItems readItem source) := by
  fun_induction readMoreItems readItem source with
  | case2 => exact gives_ok nofun _
  | case6 source rest next behind _ _ item later first _ _ _ _ inductionHypothesis =>
    exact inductionHypothesis.map fun read each =>
      List.forall_mem_cons.2 ⟨gives rest _ first, each⟩
  | _ => exact gives_error _

theorem gives_readItems (gives : ∀ source, Gives Holds (readItem source)) (source : Text) :
    Gives (fun items => ∀ item ∈ items, Holds item) (readItems readItem source) := by
  fun_cases readItems readItem source with
  | case2 => exact gives_ok nofun _
  | case4 _ _ _ _ item later first =>
    exact (gives_readMoreItems gives _).map fun read each =>
      List.forall_mem_cons.2 ⟨gives source _ first, each⟩
  | _ => exact gives_error _

theorem gives_readMember (gives : ∀ source, Gives Holds (readItem source)) (source : Text) :
    Gives (fun member => Holds member.2) (readMember readItem source) := by
  fun_cases readMember readItem source with
  | case3 name afterName _ rest =>
    exact ((gives rest).widen _).map fun read holds => holds
  | _ => exact gives_error _

theorem gives_readMoreMembers (gives : ∀ source, Gives Holds (readItem source)) (source : Text) :
    Gives (fun members => ∀ member ∈ members, Holds member.2)
      (readMoreMembers readItem source) := by
  fun_induction readMoreMembers readItem source with
  | case2 => exact gives_ok nofun _
  | case5 source rest inside member later first _ _ _ _ _ inductionHypothesis =>
    exact inductionHypothesis.map fun read each =>
      List.forall_mem_cons.2 ⟨gives_readMember gives inside _ first, each⟩
  | _ => exact gives_error _

theorem gives_readMembers (gives : ∀ source, Gives Holds (readItem source)) (source : Text) :
    Gives (fun members => ∀ member ∈ members, Holds member.2) (readMembers readItem source) := by
  fun_cases readMembers readItem source with
  | case2 => exact gives_ok nofun _
  | case4 rest member later first =>
    exact (gives_readMoreMembers gives _).map fun read each =>
      List.forall_mem_cons.2 ⟨gives_readMember gives rest _ first, each⟩
  | _ => exact gives_error _

end Containers

/-! ### Documents -/

theorem gives_readNamed {document : Json} (ordered : document.Ordered) (word : Text)
    {source outer : Text} (shorter : source.length < outer.length) :
    Gives Ordered ((readNamed document word source).map fun read =>
      (read.1, (⟨read.2.1, Nat.lt_of_le_of_lt read.2.2 shorter⟩ : Rest outer))) := by
  rw [readNamed]
  split
  · exact gives_error _
  · exact gives_ok ordered _

theorem gives_readValue (depth : Nat) (source : Text) : Gives Ordered (readValue depth source) := by
  induction depth using Nat.strongRecOn generalizing source with
  | ind depth inductionHypothesis =>
    fun_cases readValue depth source with
    | case2 _ rest front shorter => exact gives_readNamed .null _ shorter
    | case3 _ rest front shorter => exact gives_readNamed (.boolean true) _ shorter
    | case4 _ rest front shorter => exact gives_readNamed (.boolean false) _ shorter
    | case6 => exact gives_ok (.number _) _
    | case8 => exact gives_ok (.number _) _
    | case10 => exact gives_ok (.string _) _
    | case12 rest level =>
      have items := gives_readItems (inductionHypothesis level (Nat.lt_succ_self level)) rest
      exact (items.widen _).map fun read each => .array each
    | case14 rest level =>
      have members := gives_readMembers (inductionHypothesis level (Nat.lt_succ_self level)) rest
      exact (members.widen _).map fun read each =>
        .object (Fields.ordered_ofList read.1) fun member inside =>
          each member (Fields.mem_ofList inside)
    | _ => exact gives_error _

/-- Every document that is read is ordered. -/
theorem ordered_of_read {source : Text} {document : Json} (read : Json.read source = .ok document) :
    document.Ordered := by
  rw [Json.read] at read
  split at read
  · contradiction
  · rename_i held rest taken
    split at read
    · contradiction
    · obtain rfl := Except.ok.inj read
      exact gives_readValue maximalDepth source _ taken

end Json

end Stencil
