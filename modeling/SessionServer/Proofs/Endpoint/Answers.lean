import SessionServer.Endpoint.Router
import SessionServer.Proofs.Credential.Cookie
import SessionServer.Proofs.Json.Text

/-!
What answers say, character by character: for whatever makes an answer, all that the answer holds. Texts
of users stand between quotes, with escapes where the format demands them, and can be told from the answer.
-/

namespace SessionServer

namespace Principal
open Json (Quotes)

/-- A text that shows a principal. -/
inductive Shows (user : Principal) : String → Prop where
  | intro {email displayName : String} (quotedEmail : Quotes user.email email)
      (quotedName : Quotes user.displayName displayName) :
      Shows user ("\x7b\"id\":" ++ toString user.id ++ ",\"email\":" ++ email ++
        ",\"display_name\":" ++ displayName ++ "\x7d")

theorem shows_document (user : Principal) : user.Shows user.document.render := by
  have written : user.document.render =
      "\x7b\"id\":" ++ toString user.id ++ ",\"email\":" ++ String.ofList (Json.writeText user.email) ++
        ",\"display_name\":" ++ String.ofList (Json.writeText user.displayName) ++ "\x7d" := by
    have id : Json.writeText "id" = _ := Json.writeText_eq (by decide)
    have email : Json.writeText "email" = _ := Json.writeText_eq (by decide)
    have displayName : Json.writeText "display_name" = _ := Json.writeText_eq (by decide)
    apply String.toList_injective
    rw [← Text.Decimal.ofList_ofInt]
    simp [document, Json.Document.render, Json.Document.write, Json.writeMembers, id, email, displayName]
  rw [written]
  exact .intro (Json.quotes_writeText user.email) (Json.quotes_writeText user.displayName)

theorem Shows.toList {user : Principal} {shown : String} (shows : user.Shows shown) :
    ∃ email displayName, Json.SpellsAll user.email.toList email ∧
      Json.SpellsAll user.displayName.toList displayName ∧
      shown.toList = "\x7b\"id\":".toList ++ (Text.Decimal.ofInt user.id ++
        ',' :: ("\"email\":\"".toList ++ (email ++
          '"' :: (",\"display_name\":\"".toList ++ (displayName ++ '"' :: ['\x7d']))))) := by
  cases shows with
  | intro quotedEmail quotedName =>
    cases quotedEmail with
    | @intro email spelledEmail =>
      cases quotedName with
      | @intro displayName spelledName =>
        refine ⟨email, displayName, spelledEmail, spelledName, ?_⟩
        rw [← Text.Decimal.ofList_ofInt]
        simp

/-- A text shows one principal only. -/
theorem Shows.unique {user other : Principal} {shown : String} (shows : user.Shows shown)
    (otherShows : other.Shows shown) : user = other := by
  obtain ⟨email, displayName, spelledEmail, spelledName, written⟩ := shows.toList
  obtain ⟨otherEmail, otherName, otherSpelled, otherSpelledName, otherWritten⟩ := otherShows.toList
  rw [otherWritten] at written
  have whole := List.append_cancel_left written
  have cut := congrArg (Text.splitOnce ',') whole
  rw [Text.splitOnce_append _ (Text.Decimal.comma_not_mem_ofInt other.id),
    Text.splitOnce_append _ (Text.Decimal.comma_not_mem_ofInt user.id)] at cut
  obtain ⟨ids, afterId⟩ := Prod.mk.inj (Option.some.inj cut)
  obtain ⟨emails, afterEmail⟩ :=
    Json.spellsAll_unique otherSpelled spelledEmail (List.append_cancel_left afterId)
  obtain ⟨names, -⟩ :=
    Json.spellsAll_unique otherSpelledName spelledName (List.append_cancel_left afterEmail)
  rcases user with ⟨id, userEmail, userName⟩
  rcases other with ⟨otherId, otherUserEmail, otherUserName⟩
  rw [Principal.mk.injEq]
  exact ⟨(Text.Decimal.ofInt_injective ids).symm, (String.toList_injective emails).symm,
    (String.toList_injective names).symm⟩

end Principal

namespace Http.Refusal

/-- A refusal holds its status and its message. -/
theorem response_eq {refusal : Refusal}
    (plain : refusal.message.toList.flatMap Json.writeChar = refusal.message.toList) :
    refusal.response =
      { status := refusal.status, contentType := some "application/json"
        body := "\x7b\"error\":\"" ++ refusal.message ++ "\"\x7d" } := by
  have key : Json.writeText "error" = _ := Json.writeText_eq (by decide)
  have body : (document refusal.message).render = "\x7b\"error\":\"" ++ refusal.message ++ "\"\x7d" := by
    apply String.toList_injective
    simp [document, Json.Document.render, Json.Document.write, Json.writeMembers, key,
      Json.writeText_eq plain]
  rw [response, Response.json, body]

/-- Whatever is wrong with a session, the refusal is the same and takes the cookie away; but a fault of the
stores is told, and the cookie stays. -/
theorem ofSession_eq (error : Session.Error) (secure : Bool) :
    ofSession error secure =
      if error = .validatorUnavailable then
        { status := 503, contentType := some "application/json", retryAfter := some 1
          body := "\x7b\"error\":\"Service temporarily unavailable\"\x7d" }
      else
        { status := 401, contentType := some "application/json"
          setCookie :=
            some ("session_token=; HttpOnly; SameSite=Strict; Path=/; Max-Age=0" ++
              (if secure then "; Secure" else ""))
          body := "\x7b\"error\":\"Not authenticated\"\x7d" } := by
  cases error with
  | validatorUnavailable => rfl
  | _ =>
    rw [if_neg (by decide), ← Credential.Cookie.clearing_eq]
    rfl

end Http.Refusal

namespace Endpoint

variable {site : Site} {moment : Moment} {request : Http.Request}

/-- A login is answered with its token, with the time at which the token expires and with its user, and the
token is set as a cookie for as long as it lasts. -/
theorem Login.Begun.response_eq (begun : Login.Begun) (secure : Bool)
    (plain : begun.issued.token.toList.flatMap Json.writeChar = begun.issued.token.toList) :
    begun.response secure =
      { status := 200, contentType := some "application/json"
        setCookie :=
          some ("session_token=" ++ begun.issued.token ++
            "; HttpOnly; SameSite=Strict; Path=/; Max-Age=" ++ toString begun.issued.duration ++
            (if secure then "; Secure" else ""))
        body :=
          "\x7b\"token\":\"" ++ begun.issued.token ++ "\",\"expires_at\":" ++
            toString begun.issued.expiresAt ++ ",\"user\":" ++ begun.user.document.render ++ "\x7d" } := by
  have token : Json.writeText "token" = _ := Json.writeText_eq (by decide)
  have expiresAt : Json.writeText "expires_at" = _ := Json.writeText_eq (by decide)
  have user : Json.writeText "user" = _ := Json.writeText_eq (by decide)
  have body : (Json.Document.object [("token", .text begun.issued.token),
      ("expires_at", .natural begun.issued.expiresAt), ("user", begun.user.document)]).render =
      "\x7b\"token\":\"" ++ begun.issued.token ++ "\",\"expires_at\":" ++
        toString begun.issued.expiresAt ++ ",\"user\":" ++ begun.user.document.render ++ "\x7d" := by
    apply String.toList_injective
    rw [← Text.Decimal.ofList_ofNat]
    simp [Json.Document.render, Json.Document.write, Json.writeMembers, token, expiresAt, user,
      Json.writeText_eq plain]
  rw [response, Credential.Cookie.session_eq, Http.Response.json, body]

/-- Who has a session is told its user, and the time at which it expires. -/
theorem Session.current_eq {after : Site} {session : SessionServer.Session.Authenticated}
    (good : Session.authenticate site moment.clock request.headers = (after, .ok session)) :
    Session.current site moment request =
      (after,
        { status := 200, contentType := some "application/json"
          body :=
            "\x7b\"user\":" ++ session.principal.document.render ++ ",\"expires_at\":" ++
              toString session.expiresAt ++ "\x7d" }) := by
  have expiresAt : Json.writeText "expires_at" = _ := Json.writeText_eq (by decide)
  have user : Json.writeText "user" = _ := Json.writeText_eq (by decide)
  have body : (Json.Document.object [("user", session.principal.document),
      ("expires_at", .natural session.expiresAt)]).render =
      "\x7b\"user\":" ++ session.principal.document.render ++ ",\"expires_at\":" ++
        toString session.expiresAt ++ "\x7d" := by
    apply String.toList_injective
    rw [← Text.Decimal.ofList_ofNat]
    simp [Json.Document.render, Json.Document.write, Json.writeMembers, expiresAt, user]
  simp only [Session.current, Session.authenticated, good, Http.Response.json, body]

end Endpoint

end SessionServer
