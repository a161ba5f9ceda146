import ModAuthOpenidc.Proto.Response

/-!
# Userinfo requests

The request to the userinfo endpoint of `src/proto/userinfo.c`: a response is a JSON object or a
JWT, aggregated and distributed claims are resolved, and the subject is compared with that of the
id_token. What the endpoints answer is an input.
-/

namespace ModAuthOpenidc

namespace Proto

/-! ## Surroundings -/

/-- The library functions that only userinfo responses go through. -/
structure UserinfoJose extends Jose where
  /-- `oidc_proto_jwt_header_peek` finds a header, and keys can be made for its algorithm. -/
  jwtHeaderPeek : String → Bool
  /-- `oidc_jwe_decrypt`. -/
  jweDecrypt : String → Option String
  /-- `oidc_json_decode_object`. -/
  jsonDecodeObject : String → Option Object

/-- What one userinfo request meets. -/
structure UserinfoAnswers where
  /-- Whether `oidc_proto_dpop_create` makes a proof. -/
  dpopCreate : Bool := true
  /-- The body and the status of the response, nothing for a connectivity error. -/
  endpoint : Option (String × Int)
  /-- Whether `oidc_proto_dpop_use_nonce` picks up a nonce from an error response. -/
  dpopUseNonce : Bool := false
  /-- The response to the request with that nonce. -/
  retried : Option (String × Int) := none
  /-- The response of a claim source, by its name, its endpoint and its access token. -/
  compositeEndpoint : String → String → String → Option String := fun _ _ _ => none

/-! ## Composite claims -/

/-- `oidc_proto_userinfo_composite_source_payload`. -/
def compositeSourcePayload (fetch : String → String → Option String) (source : Object) :
    Option String :=
  match source.get "JWT" with
  | some (.str jwt) => some jwt
  | _ =>
      match source.getString "access_token", source.getString "endpoint" with
      | some accessToken, some endpoint => fetch endpoint accessToken
      | _, _ => none

/-- The members of an object, none for any other value. -/
def members : Option Json → Object
  | some (.obj members) => members
  | _ => []

/-- `oidc_proto_userinfo_composite_decode_source`. -/
def compositeDecodeSource (jwtParse : Option String → Option Jwt) (key text : String)
    (decoded : Object) : Object :=
  match jwtParse (some text) with
  | none => decoded
  | some jwt => decoded.set key (.obj (Object.merge jwt.claims (members (decoded.get key))))

/-- `oidc_proto_userinfo_composite_decode_sources`. -/
def compositeDecodeSources (jwtParse : Option String → Option Jwt)
    (fetch : String → String → String → Option String) (sources : Object) : Object :=
  sources.foldl (fun decoded source =>
    match source with
    | (key, .obj value) =>
        match compositeSourcePayload (fetch key) value with
        | none => decoded
        | some text => if text = "" then decoded
            else compositeDecodeSource jwtParse key text decoded
    | _ => decoded) []

/-- `oidc_proto_userinfo_composite_apply_names`. -/
def compositeApplyNames (names decoded claims : Object) : Object :=
  names.foldl (fun claims name =>
    match name with
    | (key, .str source) =>
        match decoded.get source with
        | some (.obj values) =>
            match Object.get values key with
            | none => claims
            | some value => claims.set key value
        | _ => claims
    | _ => claims) claims

/-- `oidc_proto_userinfo_request_composite_claims`. -/
def compositeClaims (jwtParse : Option String → Option Jwt)
    (fetch : String → String → String → Option String) (claims : Object) : Object :=
  match claims.get "_claim_names", claims.get "_claim_sources" with
  | some (.obj names), some (.obj sources) =>
      ((compositeApplyNames names (compositeDecodeSources jwtParse fetch sources) claims).del
        "_claim_names").del "_claim_sources"
  | _, _ => claims

/-! ## The request -/

/-- `oidc_proto_userinfo_response_jwt_parse`: the claims, and the signed JWT. -/
def userinfoResponseJwtParse (jose : UserinfoJose) (provider : Provider) (response : String) :
    Option (Object × String) :=
  if jose.jwtHeaderPeek response then
    (if provider.userinfoEncryptedResponseAlg.isSome then jose.jweDecrypt response
      else some response).bind fun signed =>
      match provider.userinfoSignedResponseAlg, jose.jwtParse (some signed) with
      | some alg, some jwt =>
          if jwtVerify jose.toJose jwt (some alg) then some (jwt.claims, signed) else none
      | _, _ => none
  else
    none

/-- The out parameters of a userinfo request. -/
structure UserinfoReply where
  claims : Option Object := none
  jwt : Option String := none
  /-- The status of the response, `0` while there is none. -/
  responseCode : Int := 0

/-- `oidc_proto_userinfo_response_resolve`. -/
def userinfoResponseResolve (jose : UserinfoJose) (provider : Provider)
    (answer : Option (String × Int)) (reply : UserinfoReply) : UserinfoReply × Bool :=
  match answer with
  | none => (reply, false)
  | some (body, responseCode) =>
      match jose.jsonDecodeObject body with
      | some claims => ({ reply with claims := some claims, responseCode }, true)
      | none =>
          match userinfoResponseJwtParse jose provider body with
          | none => ({ reply with responseCode }, false)
          | some (claims, jwt) => ({ claims := some claims, jwt := some jwt, responseCode }, true)

/-- `oidc_json_check_error`. -/
def jsonCheckError (claims : Object) : Bool :=
  match claims.get "error" with
  | none => false
  | some .null => false
  | some _ => true

/-- `oidc_proto_userinfo_request_validate_sub`. -/
def userinfoRequestValidateSub (noUserinfoSub : Bool) (idTokenSub : Option String)
    (claims : Object) : Bool :=
  match claims.getString "sub" with
  | none => noUserinfoSub
  | some sub => idTokenSub.all fun expected => expected = sub

/-- The response of a userinfo request, after the retry that a `DPoP` error may ask for. -/
def userinfoResponse (jose : UserinfoJose) (provider : Provider) (tokenType : Option String)
    (answers : UserinfoAnswers) (reply : UserinfoReply) : UserinfoReply × Bool :=
  let dpop := tokenType.any fun kind => strnatcaseEquals kind "DPoP"
  if dpop && !answers.dpopCreate then (reply, false)
  else
    match userinfoResponseResolve jose provider answers.endpoint reply with
    | (reply, false) => (reply, false)
    | (reply, true) =>
        if dpop && reply.jwt.isNone && reply.claims.any jsonCheckError then
          if answers.dpopUseNonce then
            match userinfoResponseResolve jose provider answers.retried
              { reply with claims := none } with
            | (reply, false) => (reply, false)
            | (reply, true) => (reply, !reply.claims.any jsonCheckError)
          else
            -- a regular error response
            (reply, false)
        else
          (reply, true)

/-- `oidc_proto_userinfo_request`: there are claims afterwards exactly if it succeeded. -/
def userinfoRequest (jose : UserinfoJose) (provider : Provider) (noUserinfoSub : Bool)
    (idTokenSub tokenType : Option String) (answers : UserinfoAnswers) (reply : UserinfoReply) :
    UserinfoReply :=
  match userinfoResponse jose provider tokenType answers reply with
  | (reply, false) => { reply with claims := none }
  | (reply, true) =>
      { reply with
        claims := (reply.claims.map
            (compositeClaims jose.jwtParse answers.compositeEndpoint)).filter
          (userinfoRequestValidateSub noUserinfoSub idTokenSub) }

/-- The claims of a successful request are those of the expected subject. -/
theorem userinfoRequest_sub {jose : UserinfoJose} {provider : Provider}
    {idTokenSub tokenType : Option String} {answers : UserinfoAnswers} {reply : UserinfoReply}
    {claims : Object}
    (resolved : (userinfoRequest jose provider false idTokenSub tokenType answers reply).claims =
      some claims) {sub : String} (expected : idTokenSub = some sub) :
    claims.getString "sub" = some sub := by
  unfold userinfoRequest at resolved
  split at resolved
  · cases resolved
  · obtain ⟨-, validated⟩ := Option.filter_eq_some_iff.mp resolved
    rw [userinfoRequestValidateSub, expected] at validated
    split at validated
    · cases validated
    · next present => rw [present, ← of_decide_eq_true validated]

end Proto

end ModAuthOpenidc
