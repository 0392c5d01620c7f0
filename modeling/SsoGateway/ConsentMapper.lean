import SsoGateway.Lib.Json
import Mathlib.Data.Int.Notation

/-!
# Consent documents

The translation between Hydra's consent documents and the gateway's messages, and the claims the
gateway puts into the session of an accepted consent.

* `ConsentRequest`, `oryConsentRequestToProto` — what is read from Hydra.
* `AcceptConsentRequest`, `acceptConsentRequestToJson` — what is sent to Hydra.
* `injectIdTokenClaim`, `mergeIdTokenClaims` — insertion into `session.id_token`; a claim the
  caller already supplied is kept.

Source: `services/oauth2_consent_mapper.rs`, `services/proto_util.rs`, and the claim merge at the
end of `accept_consent` in `services/oauth2_consent.rs`.
-/

namespace SsoGateway

open Lib

/-! ## Reading fields -/

/-- Source: `json_value_to_string`. -/
def jsonValueToString (v : Value) : String := v.asStr.getD v.render

/-- Source: `json_array_to_strings`. -/
def jsonArrayToStrings (v : Value) : List String :=
  match v.asArray with
  | some items => items.map jsonValueToString
  | none => []

/-- Source: `json_str`. -/
def jsonStr (v : Value) (field : String) : String := ((v.get field).bind Value.asStr).getD ""

/-- Source: `json_bool`. -/
def jsonBool (v : Value) (field : String) : Bool := (v.get field).bind Value.asBool = some true

/-! ## The consent request -/

/-- The fields of a pending consent that the service reads. Source: `ConsentRequest`. -/
structure ConsentRequest where
  clientId : String
  subject : String
  skip : Bool
  requestedScope : List String
  requestedAccessTokenAudience : List String
deriving DecidableEq, Repr

/-- Source: `ory_consent_request_to_proto`. -/
def oryConsentRequestToProto (v : Value) : ConsentRequest :=
  let client := v.index "client"
  { clientId := jsonStr client "client_id"
    subject := jsonStr v "subject"
    skip := jsonBool v "skip"
    requestedScope := jsonArrayToStrings (v.index "requested_scope")
    requestedAccessTokenAudience := jsonArrayToStrings (v.index "requested_access_token_audience") }

/-! ## The accept body -/

/-- Source: `AcceptConsentRequest`; `session` is the document the protobuf struct serialises to. -/
structure AcceptConsentRequest where
  challenge : String
  grantScope : List String
  grantAccessTokenAudience : List String
  remember : Bool
  rememberFor : ℤ
  session : Option Value

/-- Source: `accept_consent_request_to_json`. -/
def acceptConsentRequestToJson (req : AcceptConsentRequest) : Value :=
  .obj ([("grant_scope", .arr (req.grantScope.map .str)),
    ("grant_access_token_audience", .arr (req.grantAccessTokenAudience.map .str)),
    ("remember", .bool req.remember)] ++
    (if req.rememberFor ≠ 0 then [("remember_for", .number (toString req.rememberFor))] else []) ++
    match req.session with
    | some session => [("session", session)]
    | none => [])

/-- Insert claims into `session.id_token` of an accept body, creating the session and the token
object where they are absent; a claim that is already there is kept. -/
def mergeIdTokenClaims (claims : List (String × Value)) (body : Value) : Value :=
  body.entryOr "session" (.obj []) fun session =>
    session.entryOr "id_token" (.obj []) fun idToken =>
      claims.foldl (fun tok kv => tok.entryOr kv.1 kv.2 id) idToken

/-- Source: `inject_id_token_claim`. -/
def injectIdTokenClaim (body : Value) (claim value : String) : Value :=
  if value = "" then body else mergeIdTokenClaims [(claim, .str value)] body

/-- The merge of the minted claim at the end of `accept_consent`. -/
def mergeClaim (body claim : Value) : Value :=
  match claim.asObject with
  | some fields => mergeIdTokenClaims fields body
  | none => body

/-- Source: `identity_email`. -/
def identityEmail (identity : Value) : Option String :=
  ((identity.get "traits").bind fun traits => traits.get "email").bind Value.asStr

end SsoGateway
