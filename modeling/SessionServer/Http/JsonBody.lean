import SessionServer.Http.MediaType
import SessionServer.Http.Request
import SessionServer.Http.Response
import SessionServer.Json.Record

/-!
Reading a record off the body of a request. The body has to be announced as JSON, may not be longer
than two mebibytes, and has to hold the record and nothing else.
-/

namespace SessionServer.Http.JsonBody

def maxLength : Nat := 2097152

def isAnnounced (headers : Headers) : Bool :=
  match (headers.first? "content-type").bind FieldValue.text? with
  | some text => MediaType.isJson text
  | none => false

/-- The response to a body that does not hold the record. -/
def refusal (body : Bytes) (fault : Json.Fault) : Response :=
  if fault.cause.isShape then
    Response.text 422
      ("Failed to deserialize the JSON body into the target type: " ++ fault.describe body)
  else Response.text 400 ("Failed to parse the request body as JSON: " ++ fault.describe body)

/-- The fields of the record that a request holds, or the response that refuses it. -/
def read {α : Type} (record : Json.Record α) (request : Request) :
    Except Response (Json.Slots α) :=
  if !isAnnounced request.headers then
    .error (Response.text 415 "Expected request with `Content-Type: application/json`")
  else if maxLength < request.body.length then
    .error (Response.text 413 "Failed to buffer the request body: length limit exceeded")
  else
    match record.ofBytes request.body with
    | .ok slots => .ok slots
    | .error fault => .error (refusal request.body fault)

end SessionServer.Http.JsonBody
