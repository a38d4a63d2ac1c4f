/-
This file names the parts of a template. A placeholder stands for one text. A block
repeats its body: an `each` block once for every item of a list, whose fields the
body names, and a `for` block once for every text of a list or every integer of a
range. Every part carries the span of bytes it was read from.
-/

import Stencil.Text.Blank

namespace Stencil

/-- The braces that open every marker. -/
def openBraces : Text := ['{', '{']

/-- The braces that close every marker. -/
def closeBraces : Text := ['}', '}']

/-- The bytes of a text from one offset up to another. -/
structure Span where
  start : Nat
  stop : Nat
  deriving DecidableEq, Repr

/-- Whether a byte lies in a span. -/
def Span.contains (span : Span) (offset : Nat) : Bool :=
  span.start ≤ offset && offset < span.stop

/-- The two forms of block. -/
inductive BlockKind where
  /-- An `each` block, which repeats its body for every item of a list. -/
  | each
  /-- A `for` block, which repeats its body for every text of a list or integer of a range. -/
  | loop
  deriving DecidableEq, Repr

namespace BlockKind

/-- The word that names the kind in its tags. -/
def name : BlockKind → String
  | .each => "each"
  | .loop => "for"

/-- The tag that opens a block, up to the space before the target. -/
def opener : BlockKind → Text
  | .each => ['{', '{', '#', 'e', 'a', 'c', 'h', ' ']
  | .loop => ['{', '{', '#', 'f', 'o', 'r', ' ']

/-- The tag that closes a block. -/
def closer : BlockKind → Text
  | .each => ['{', '{', '#', 'e', 'n', 'd', '_', 'e', 'a', 'c', 'h', '}', '}']
  | .loop => ['{', '{', '#', 'e', 'n', 'd', '_', 'f', 'o', 'r', '}', '}']

end BlockKind

/-- A complete block. -/
structure Block where
  kind : BlockKind
  /-- The text between the opener and the first closing braces after it. -/
  target : Text
  /-- The text between those braces and the first closer after them. -/
  body : Text
  span : Span
  deriving DecidableEq, Repr

namespace Block

/-- The target without the blanks around it. -/
def path (block : Block) : Text :=
  block.target.trim

/-- A block as it stands in a template. -/
def written (kind : BlockKind) (target body : Text) : Text :=
  kind.opener ++ target ++ closeBraces ++ body ++ kind.closer

end Block

/-- A marker that stands for the text at a path. -/
structure Placeholder where
  path : Text
  span : Span
  deriving DecidableEq, Repr

namespace Placeholder

/-- A placeholder as it stands in a template. -/
def written (content : Text) : Text :=
  openBraces ++ content ++ closeBraces

end Placeholder

/-- An opener after which nothing closes the block. -/
structure Unclosed where
  kind : BlockKind
  offset : Nat
  deriving DecidableEq, Repr

/-- A part of a template. -/
inductive Marker where
  | block (block : Block)
  | placeholder (placeholder : Placeholder)
  deriving DecidableEq, Repr

namespace Marker

/-- The span a part was read from. -/
def span : Marker → Span
  | .block inner => inner.span
  | .placeholder inner => inner.span

/-- The word that names the sort of part. -/
def kindName : Marker → String
  | .block inner => inner.kind.name
  | .placeholder _ => "var"

/-- The path of a part, without the blanks around it. -/
def path : Marker → Text
  | .block inner => inner.path
  | .placeholder inner => inner.path

end Marker

end Stencil
