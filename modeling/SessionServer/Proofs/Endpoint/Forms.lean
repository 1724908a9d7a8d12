import SessionServer.Endpoint.Login
import SessionServer.Proofs.Json.Record

/-!
Forms as clients send them. Whatever texts a form has, the endpoint reads it as it was written.
-/

namespace SessionServer

namespace Http

/-- A request that posts a JSON document. -/
def Request.post (target : String) (document : Json.Document) : Request :=
  { method := "POST", target := target
    headers := { fields := [("content-type", { octets := Utf8.encode "application/json".toList })] }
    body := Utf8.encode document.write }

theorem JsonBody.read_post {α : Type} {record : Json.Record α} {document : Json.Document}
    {slots : Json.Slots α} (target : String) (short : (Utf8.encode document.write).length ≤ maxLength)
    (holds : record.ofBytes (Utf8.encode document.write) = .ok slots) :
    read record (Request.post target document) = .ok slots := by
  have announced : isAnnounced (Request.post target document).headers = true := by
    show isAnnounced { fields := [("content-type", { octets := Utf8.encode "application/json".toList })] } =
      true
    decide
  have body : (Request.post target document).body = Utf8.encode document.write := rfl
  rw [read, announced, if_neg (by decide), body, if_neg (Nat.not_lt.mpr short), holds]

end Http

namespace Endpoint

variable {target : String}

/-- A member with a text fills the field of its name, if the field is still empty. -/
theorem fills_text {fields : List (Json.Field String)} {name content : String} {index : Nat}
    {members : List (String × Json.Document)} {slots final : Json.Slots String}
    (found : Json.Record.find? fields name = some (index, textField name))
    (free : slots[index]? = some none)
    (later : Json.Fills fields members (slots.set index (some content)) final) :
    Json.Fills fields ((name, .text content) :: members) slots final := by
  refine .known found free ?_ later
  intro rest _
  rw [textField, Json.Document.write]
  exact Json.Record.text_written content rest

namespace Registration

def Form.document (form : Form) : Json.Document :=
  .object [("email", .text form.email), ("display_name", .text form.displayName),
    ("password", .text form.password)]

theorem read_post (form : Form)
    (short : (Utf8.encode form.document.write).length ≤ Http.JsonBody.maxLength) :
    ∃ slots, Http.JsonBody.read record (Http.Request.post target form.document) = .ok slots ∧
      Form.ofSlots slots = form := by
  refine ⟨[some form.email, some form.displayName, some form.password], ?_, rfl⟩
  refine Http.JsonBody.read_post target short (Json.Record.ofBytes_written ?_ rfl)
  exact fills_text rfl rfl (fills_text rfl rfl (fills_text rfl rfl (.done _)))

end Registration

namespace Login

def Form.document (form : Form) : Json.Document :=
  .object [("email", .text form.email), ("password", .text form.password)]

theorem read_post (form : Form)
    (short : (Utf8.encode form.document.write).length ≤ Http.JsonBody.maxLength) :
    ∃ slots, Http.JsonBody.read record (Http.Request.post target form.document) = .ok slots ∧
      Form.ofSlots slots = form := by
  refine ⟨[some form.email, some form.password], ?_, rfl⟩
  refine Http.JsonBody.read_post target short (Json.Record.ofBytes_written ?_ rfl)
  exact fills_text rfl rfl (fills_text rfl rfl (.done _))

end Login

end Endpoint

end SessionServer
