import ServerLink.Proofs.LeadingMark

/-!
What the server gets in development: the text of the module as it is, and behind it the code that
registers its functions.
-/

set_option autoImplicit false

namespace ServerLink

open Script Text

namespace Sample

end Sample

end ServerLink
