import SessionServer.Proofs.Endpoint.Answers
import SessionServer.Proofs.Endpoint.Login
import SessionServer.Proofs.Session.Calls
import SessionServer.Proofs.Session.Verdicts

/-!
What is answered to those who ask for their session. Endpoints look accounts up in the database, whoever
else is asked for them.
-/

namespace SessionServer

namespace Session
open Text.Decimal (IsSigned)

variable {secret : Bytes} {stores : Stores} {principal : Principal} {issuedAt duration now : Nat}
  {tokenId : String} {issued : Token.Issued}

/-- Whether a token that was issued passes, while it is neither revoked nor expired, is for the database
to say. -/
theorem validateToken_of_issue (asked : stores.people = .database)
    (issues : Token.issue secret principal issuedAt duration tokenId = .ok issued)
    (signed : IsSigned principal.id) (unexpired : now < issued.expiresAt)
    (unrevoked : (stores.isRevoked issued.token now).2 = .ok false) {found : Option Account}
    (looked : stores.database.accountById principal.id = .ok found) :
    (validateToken secret stores issued.token now).2 =
      match found with
      | some _ => .ok { principal := principal, expiresAt := issued.expiresAt, token := issued.token }
      | none => .error .unknownPrincipal := by
  have ends : issued.expiresAt = issuedAt + duration := by rw [(Token.issue_eq_ok_iff.mp issues).2]
  have known : ((stores.isRevoked issued.token now).1.principal principal.id).2 =
      .ok (found.map Account.principal) := by
    rw [Stores.isRevoked_fst, Stores.principal_receive asked, Stores.accountPrincipal, looked]
  rw [validateToken_snd, unrevoked, ends]
  simp only [verdict, Token.read_of_issue issues signed unexpired, Token.Claims.ofSession, known]
  cases found with
  | none => rfl
  | some account => rfl

end Session

namespace Endpoint

variable {site : Site} {moment : Moment} {request : Http.Request}

theorem isRevoked_endpointStores (token : String) (now : Nat) :
    (site.endpointStores.isRevoked token now).2 = (site.stores.isRevoked token now).2 := by
  have same : site.endpointStores.register = site.stores.register := rfl
  unfold SessionServer.Session.Stores.isRevoked
  rw [same]
  cases site.stores.register with
  | error => rfl
  | ok => rfl

/-- Who is authenticated by a request is told its session. -/
theorem handle_current {session : SessionServer.Session.Authenticated}
    (asked : request.resource? = some .session) (got : request.method = "GET")
    (good : (Session.authenticate site moment.clock request.headers).2 = .ok session) :
    (handle site moment request).2 =
      { status := 200, contentType := some "application/json"
        body :=
          "\x7b\"user\":" ++ session.principal.document.render ++ ",\"expires_at\":" ++
            toString session.expiresAt ++ "\x7d" } := by
  have posted : request.method ≠ "POST" := by
    rw [got]
    decide
  have reads : request.method = "GET" ∨ request.method = "HEAD" := .inl got
  rw [handle_eq_route got (by decide)]
  simp only [route, asked, Endpoint.session, if_neg posted, if_pos reads,
    Session.current_eq (Prod.ext rfl good)]

end Endpoint

end SessionServer
