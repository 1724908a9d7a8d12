import SessionServer.Text.Decimal
import SessionServer.Text.Quoted

/-!
Who a session belongs to.
-/

namespace SessionServer

structure Principal where
  id : Int
  email : String
  displayName : String
  deriving DecidableEq, Repr

def Principal.describe (principal : Principal) : String :=
  "Principal \x7b id: " ++ String.ofList (Text.Decimal.ofInt principal.id) ++
    ", email: " ++ Text.Quoted.encode principal.email ++
    ", display_name: " ++ Text.Quoted.encode principal.displayName ++ " \x7d"

end SessionServer
