import ServerLink.Options

/-!
Which changes are made to a module. The client gets calls that are sent to the server and stubs in
the place of server functions; the server gets the functions registered. Production builds hold
the library's helpers inline on both sides.
-/

set_option autoImplicit false

namespace ServerLink

structure Passes where
  /-- Calls of imported server functions are sent to the server. -/
  callSites : Bool
  /-- Server functions of the module become stubs. -/
  clientStubs : Bool
  registration : Bool
  /-- Calls of the library's helpers hold the helper's code. -/
  inlineHelpers : Bool
  deriving DecidableEq, Repr

def Options.passes (o : Options) (side : Side) (definesFunctions : Bool) : Passes where
  callSites := side == .client
  clientStubs := side == .client && definesFunctions
  registration := side == .server && definesFunctions
  inlineHelpers := o.production

end ServerLink
