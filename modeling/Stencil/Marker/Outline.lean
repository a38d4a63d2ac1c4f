/-
This file describes a template without rendering it: its blocks of both kinds and
the placeholders that start outside every block, in the order of the text, and
the openers that nothing closes. Each scan reads the text as it is written, so a
`for` block within the body of an `each` block is listed as well.
-/

import Stencil.Marker.Blocks
import Stencil.Marker.Placeholders

namespace Stencil

/-- The parts of a template in the order of the text. -/
structure Outline where
  markers : List Marker
  unclosed : List Unclosed
  deriving DecidableEq, Repr

namespace Outline

/-- The blocks of both kinds, those of one kind after those of the other. -/
def blocks (text : Text) : List Block :=
  (Block.scan .each text).blocks ++ (Block.scan .loop text).blocks

/-- The placeholders that start outside every block. -/
def freePlaceholders (text : Text) : List Placeholder :=
  (Placeholder.scan text).filter fun placeholder =>
    !(blocks text).any fun block => block.span.contains placeholder.span.start

/-- The blocks and the free placeholders, each sort in its own order. -/
def parts (text : Text) : List Marker :=
  (blocks text).map Marker.block ++ (freePlaceholders text).map Marker.placeholder

/-- The openers of both kinds that nothing closes. -/
def openers (text : Text) : List Unclosed :=
  (Block.scan .each text).unclosed.toList ++ (Block.scan .loop text).unclosed.toList

/-- The outline of a template. -/
def ofText (text : Text) : Outline where
  markers := (parts text).mergeSort fun first second => first.span.start ≤ second.span.start
  unclosed := (openers text).mergeSort fun first second => first.offset ≤ second.offset

/-- An outline lists the blocks and the free placeholders, each once. -/
theorem markers_perm (text : Text) : (ofText text).markers.Perm (parts text) :=
  List.mergeSort_perm _ _

/-- An outline lists the openers that are left over, each once. -/
theorem unclosed_perm (text : Text) : (ofText text).unclosed.Perm (openers text) :=
  List.mergeSort_perm _ _

end Outline

end Stencil
