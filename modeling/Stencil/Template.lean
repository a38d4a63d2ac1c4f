/-
This file gives templates a syntax of their own. A template is a row of parts: literal
text, placeholders, and blocks whose bodies hold literal text and placeholders. A
template is written as the text of its parts one after the other, and it is filled
part by part, which says what a template means without scanning its text: what is
put in is never looked at again.
-/

import Stencil.Render.Expansion

namespace Stencil

/-- Whether a text holds no brace, neither an opening nor a closing one. -/
def Text.isBraceFree (text : Text) : Bool :=
  text.all fun character => character ≠ '{' && character ≠ '}'

/-- No text in the value holds a brace. The names of fields may. -/
inductive Value.BraceFree : Value → Prop where
  | text {content : Text} (free : content.isBraceFree) : BraceFree (.text content)
  | list {items : List Value} (each : ∀ item ∈ items, BraceFree item) : BraceFree (.list items)
  | record {fields : List (Text × Value)} (each : ∀ field ∈ fields, BraceFree field.2) :
      BraceFree (.record fields)

/-- What can stand in the body of a block. -/
inductive Piece where
  | literal (content : Text)
  | placeholder (content : Text)
  deriving DecidableEq, Repr

namespace Piece

/-- A piece as it stands in a template. -/
def written : Piece → Text
  | literal content => content
  | placeholder content => Placeholder.written content

/-- A literal without braces, or a placeholder whose content has none and names a path. -/
def isWellFormed : Piece → Bool
  | literal content => content.isBraceFree
  | placeholder content => content.isBraceFree && Placeholder.isPath content.trim

/-- The text of a piece: a placeholder gives way to the text that its path leads to from the
first root that has one there, and stays as it is written when no root has. -/
def fill (roots : List Value) : Piece → Text
  | literal content => content
  | placeholder content =>
    (roots.findSome? fun root => root.lookupText content.trim).getD
      (Placeholder.written content)

/-- The text of a piece in a `for` block, where one placeholder stands for the integer or the
text of the pass. -/
def fillToken (token new : Text) (root : Value) (piece : Piece) : Text :=
  if piece.written = token then new else piece.fill [root]

end Piece

/-- A part of a template. -/
inductive Part where
  | piece (inner : Piece)
  | block (kind : BlockKind) (target : Text) (body : List Piece)
  deriving DecidableEq, Repr

namespace Part

/-- A part as it stands in a template. -/
def written : Part → Text
  | piece inner => inner.written
  | block kind target body => Block.written kind target (body.flatMap Piece.written)

/-- A well-formed piece, or a block with a target without braces and well-formed pieces. -/
def isWellFormed : Part → Bool
  | piece inner => inner.isWellFormed
  | block _ target body => target.isBraceFree && body.all Piece.isWellFormed

/-- The text of a part. In the body of an `each` block a path starts from the item, and from
the root when it leads to no text there. -/
def fill (root : Value) : Part → Text
  | piece inner => inner.fill [root]
  | block .each target body =>
    ((root.lookupItems target.trim).getD []).flatMap fun item =>
      body.flatMap (Piece.fill [item, root])
  | block .loop target body =>
    match LoopTarget.ofText target with
    | .range first last =>
      (LoopTarget.integers first last).flatMap fun index =>
        body.flatMap (Piece.fillToken indexToken (Integer.print index) root)
    | .path path =>
      (((root.lookupItems path).getD []).filterMap Value.text?).flatMap fun content =>
        body.flatMap (Piece.fillToken itemToken content root)

end Part

/-- A template as a row of parts. -/
abbrev Template := List Part

namespace Template

/-- The text of a template as it is written. -/
def written (template : Template) : Text :=
  template.flatMap Part.written

/-- Every part is well-formed. -/
def isWellFormed (template : Template) : Bool :=
  template.all Part.isWellFormed

/-- The page of a template. -/
def fill (root : Value) (template : Template) : Text :=
  template.flatMap (Part.fill root)

@[simp] theorem written_cons (part : Part) (rest : Template) :
    written (part :: rest) = part.written ++ written rest := rfl

@[simp] theorem fill_cons (root : Value) (part : Part) (rest : Template) :
    fill root (part :: rest) = part.fill root ++ fill root rest := rfl

/-- Templates in a row are written in a row. -/
theorem written_append (before after : Template) :
    written (before ++ after) = written before ++ written after :=
  List.flatMap_append

/-- Templates in a row are filled in a row. -/
theorem fill_append (root : Value) (before after : Template) :
    fill root (before ++ after) = fill root before ++ fill root after :=
  List.flatMap_append

end Template

end Stencil
