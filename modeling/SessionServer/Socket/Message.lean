import SessionServer.Account.Principal
import SessionServer.Json.Writer

/-!
What the server says on a socket.
-/

namespace SessionServer

def Principal.document (principal : Principal) : Json.Document :=
  .object [("id", .integer principal.id), ("email", .text principal.email),
    ("display_name", .text principal.displayName)]

namespace Socket

inductive Message where
  /-- The socket is open for this principal. -/
  | connected (user : Principal)
  /-- The session is still good. -/
  | ping
  /-- The session was revoked or has expired; the socket is closed next. -/
  | sessionRevoked
  /-- The client did something that is not understood. -/
  | error (message : String)
  deriving DecidableEq, Repr

def Message.document : Message → Json.Document
  | .connected user => .object [("type", .text "connected"), ("user", user.document)]
  | .ping => .object [("type", .text "ping")]
  | .sessionRevoked => .object [("type", .text "session_revoked")]
  | .error message => .object [("type", .text "error"), ("message", .text message)]

end Socket

end SessionServer
