/-
This file expands blocks. An `each` block becomes its body once for every item of
the list at its target, the placeholders filled from the item. A `for` block
becomes its body once for every integer of its range or every text of its list,
with one fixed token replaced and nothing else. A block whose target is no list
becomes nothing.
-/

import Stencil.Marker.Blocks
import Stencil.Marker.LoopTarget
import Stencil.Render.Interpolation

namespace Stencil

/-- What stands for the integer in the body of a `for` block over a range. -/
def indexToken : Text := Placeholder.written " index ".toList

/-- What stands for the text in the body of a `for` block over a list. -/
def itemToken : Text := Placeholder.written " item ".toList

namespace Block

/-! ### What takes the place of a block -/

/-- The body once for every item, filled from the item. -/
def eachCopies (body : Text) (items : List Value) : Text :=
  items.flatMap fun item => Render.interpolate item body

/-- The body once for every integer of a range. -/
def rangeCopies (body : Text) (first last : Int) : Text :=
  (LoopTarget.integers first last).flatMap fun index =>
    Text.replaceAll indexToken (Integer.print index) body

/-- The body once for every item that is a text. -/
def listCopies (body : Text) (items : List Value) : Text :=
  (items.filterMap Value.text?).flatMap fun content => Text.replaceAll itemToken content body

/-- What takes the place of a block. -/
def expansion (root : Value) (block : Block) : Text :=
  match block.kind with
  | .each => eachCopies block.body ((root.lookupItems block.path).getD [])
  | .loop =>
    match LoopTarget.ofText block.target with
    | .range first last => rangeCopies block.body first last
    | .path path => listCopies block.body ((root.lookupItems path).getD [])

/-! ### What is reported of a block -/

/-- The report that the body holds an opener of the block's own kind. -/
def nestingWarnings (block : Block) : List Warning :=
  if Text.occursIn block.kind.opener block.body then [.nestedBlock block.kind block.path] else []

/-- The reports on the items of a list, as far as they are no texts. -/
def skippedWarnings (path : Text) (items : List Value) : List Warning :=
  items.zipIdx.filterMap fun (item, index) =>
    match item with
    | .text _ => none
    | other => some (.skippedItem path index other.shape)

/-- The reports on the list at a path, or the report that there is none. -/
def listWarnings (root : Value) (kind : BlockKind) (path : Text)
    (ofItems : List Value → List Warning) : List Warning :=
  match root.lookup path with
  | some (.list items) => ofItems items
  | other => [.notAList kind path (Shape.ofOption other)]

/-- What is reported of a block. -/
def warnings (root : Value) (block : Block) : List Warning :=
  block.nestingWarnings ++
    match block.kind with
    | .each => listWarnings root .each block.path fun items =>
        items.flatMap fun item => Render.interpolationWarnings item true block.body
    | .loop =>
      match LoopTarget.ofText block.target with
      | .range _ _ => []
      | .path path => listWarnings root .loop path (skippedWarnings path)

end Block

namespace Render

/-- The text with its blocks of one kind expanded. -/
def expand (kind : BlockKind) (root : Value) (text : Text) : Text :=
  Edit.splice text
    ((Block.scan kind text).blocks.map fun block => ⟨block.span, block.expansion root⟩)

/-- What is reported of the complete blocks of one kind in a text. -/
def blockWarnings (kind : BlockKind) (root : Value) (text : Text) : List Warning :=
  (Block.scan kind text).blocks.flatMap fun block => block.warnings root

/-- The report on the opener of one kind that nothing in the text closes. -/
def unclosedWarnings (kind : BlockKind) (text : Text) : List Warning :=
  (Block.scan kind text).unclosed.toList.map fun unclosed =>
    .unclosedBlock unclosed.kind unclosed.offset

end Render

/-- The text with its blocks of one kind expanded, and the scope with what was reported. -/
def Scope.expand (kind : BlockKind) (scope : Scope) (text : Text) : Text × Scope :=
  (Render.expand kind scope.root text,
    scope.warnAll (Render.unclosedWarnings kind text ++ Render.blockWarnings kind scope.root text))

end Stencil
