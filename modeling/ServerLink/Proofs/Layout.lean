import ServerLink.Proofs.Mentions

/-!
How the printed module is laid out. Only what a call calls gives way to the code of a helper; the
brackets and all that stands in them is left, be it a comma behind the last argument. Items stay in
their order, and one that does not begin with a call that is rewritten begins as it did.
-/

set_option autoImplicit false

namespace ServerLink

open Script Text

namespace Rewriting

variable (r : Rewriting)

/-! ### Calls -/

end Rewriting

section Parsed

variable {path : Path} {text : List Char} {m : Module}

end Parsed

/-- A call of the marker with a comma behind its argument. -/
def Sample.comma : Source :=
  .of path "import \x7b func \x7d from \"serverfn\"\nexport const f = func(() => 1,)".toList
    (by decide +kernel)

/-- A call at the beginning of a statement, behind one that ends without a semicolon. -/
def Sample.bare : Source :=
  .of path "import \x7b setCallHandler \x7d from \"serverfn\"\nlet x = y\nsetCallHandler(z)".toList
    (by decide +kernel)

end ServerLink
