import ModAuthOpenidc.CaseTable
import ModAuthOpenidc.Http.FormEncode
import ModAuthOpenidc.Proto.Jwks

/-!
# Request objects

The parameters of an authorization request are copied into a request object, which is signed and
encrypted as the configuration says and passed by value or by reference. Some parameters are removed
from the request after they have been copied, before the request object is signed.
-/

namespace ModAuthOpenidc

namespace Proto

namespace RequestObject

open Jwks (Jwk alg2kty ktyRsa ktyEc ktyOct member)

/-- The parameters of an authorization request. -/
abbrev Params := List (String × String)

/-! ## What is used of other libraries -/

/-- `oidc_jwk_t` with the use of the key. -/
structure Key extends Jwk where
  use : Option String
  deriving DecidableEq, Repr

/-- `oidc_jwt_hdr_t`. -/
structure Header where
  alg : Option String := none
  kid : Option String := none
  enc : Option String := none
  cty : Option String := none
  deriving DecidableEq, Repr

/-- The functions on JSON texts, keys and tokens. -/
structure Library where
  /-- `json_loads` without flags. -/
  loads : String → Option Json
  /-- `json_loads` with `OIDC_JSON_DECODE_ANY`. -/
  loadsAny : String → Option Json
  /-- Whether the bytes of a string are valid UTF-8. -/
  utf8 : String → Bool
  /-- `oidc_jwk_parse_json`. -/
  parseJwk : Json → Option Key
  /-- `oidc_util_key_symmetric_create`, with the size of the key and whether it is hashed. -/
  symmetricKey : Option String → Nat → Bool → Option Key
  /-- `oidc_jwt_sign`. -/
  jwtSign : Header → Object → Key → Option String
  /-- `cjose_jws_export`. -/
  jwsExport : String → Option String
  /-- The compact serialization of an object that is not signed. -/
  plainSerialize : Object → Option String
  /-- `oidc_jwt_encrypt`. -/
  jwtEncrypt : Header → Key → Option String → Option String
  /-- What the receiver of a serialized object reads. -/
  opens : String → Option Object

/-- What the documentation of the libraries says. -/
structure Library.Documented (library : Library) : Prop where
  /-- Strings that have been parsed are valid UTF-8. -/
  loads_utf8 : ∀ text config name elements element, library.loads text = some (.obj config) →
    Object.get config name = some (.arr elements) → .str element ∈ elements →
    library.utf8 element = true
  /-- A signed object is read again. -/
  opens_signed : ∀ header payload key jws text, library.jwtSign header payload key = some jws →
    library.jwsExport jws = some text → library.opens text = some payload
  /-- So is one that is not signed. -/
  opens_plain : ∀ payload text, library.plainSerialize payload = some text →
    library.opens text = some payload
  /-- Only a text is encrypted, and reading it decrypts it. -/
  opens_encrypted : ∀ header key plain sealed, library.jwtEncrypt header key plain = some sealed →
    ∃ text, plain = some text ∧ library.opens sealed = library.opens text

/-- The configuration of the provider and of the module. -/
structure Provider where
  clientId : Option String := none
  issuer : Option String := none
  clientSecret : Option String := none
  requestObject : Option String
  clientKeys : Option (List Key) := none
  /-- `oidc_cfg_private_keys_get`. -/
  privateKeys : Option (List Key) := none
  /-- What `oidc_metadata_jwks_get` finds. -/
  jwks : Option Json := none
  redirectUri : String

/-- What else a call depends on. -/
structure Env where
  /-- The readings of the clock in seconds, one after the other. -/
  now : Nat → Int
  /-- `oidc_util_rand_str`. -/
  randStr : Option String
  /-- Whether `oidc_cache_set_request_uri` stores a value until an expiry. -/
  cacheSet : String → String → Int → Bool

section Model

variable (library : Library)

/-! ## The payload -/

/-- `oidc_json_string`. -/
def jsonString (value : Option String) : Option Json :=
  (value.filter library.utf8).map Json.str

/-- `oidc_json_object_set_new`, which refuses missing values and keys that are not valid UTF-8. -/
def setNew (payload : Object) (key : String) (value : Option Json) : Object :=
  match value with
  | some value => if library.utf8 key then payload.set key value else payload
  | none => payload

/-- `oidc_proto_request_object_claims_set`. -/
def claimsSet (provider : Provider) (env : Env) (config payload : Object) (ttl : Int) : Object :=
  let payload := setNew library payload "iss" (jsonString library provider.clientId)
  let payload := setNew library payload "aud" (jsonString library provider.issuer)
  let payload := setNew library payload "iat" (some (.int (env.now 0)))
  let payload := setNew library payload "nbf" (some (.int (env.now 1)))
  let payload := setNew library payload "exp" (some (.int (env.now 2 + ttl)))
  match config.get "static" with
  | some (.obj static) => Object.merge static payload
  | _ => payload

/-- `oidc_proto_request_object_param_needs_action`. -/
def needsAction (config : Object) (name action : String) : Bool :=
  match config.get action with
  | some (.arr elements) => elements.any (· = .str name)
  | _ => false

/-- The parameters that the specifications define as strings. -/
def specStringParams : List String :=
  ["scope", "response_type", "client_id", "redirect_uri", "state", "response_mode", "nonce",
    "display", "prompt", "ui_locales", "id_token_hint", "login_hint", "acr_values",
    "claims_locales", "code_challenge", "code_challenge_method", "request_uri", "request"]

/-- The JSON value for a parameter. -/
def paramJson (name value : String) : Option Json :=
  (if name ∈ specStringParams then none else library.loadsAny value).or
    (jsonString library (some value))

/-- Whether a parameter is copied and removed. -/
abbrev removes (config : Object) (name : String) : Bool :=
  needsAction config name "copy_and_remove_from_request"

/-- Whether a parameter is copied. -/
abbrev copies (config : Object) (name : String) : Bool :=
  needsAction config name "copy_from_request" || removes config name

/-- `oidc_proto_request_object_copy_from_request`. -/
def copyFromRequest (config : Object) (copied : Object × Params) (param : String × String) :
    Object × Params :=
  if copies config param.1 then
    (setNew library copied.1 param.1 (paramJson library param.1 param.2),
      if removes config param.1 then CaseTable.set copied.2 param.1 param.1 else copied.2)
  else copied

/-- `oidc_proto_request_object_delete_from_request`. -/
def deleteFromRequest (config : Object) (params : Params) (param : String × String) : Params :=
  if removes config param.1 then CaseTable.unset params param.1 else params

/-- `oidc_proto_request_object_params_copy`. -/
def paramsCopy (config payload : Object) (params : Params) : Object × Params :=
  let copied := params.foldl (copyFromRequest library config) (payload, [])
  (copied.1, copied.2.foldl (deleteFromRequest config) params)

/-! ## Signing and encrypting -/

/-- `oidc_util_key_list_first`. -/
def keyListFirst (keys : List Key) (kty : Int) (use : Option String) : Option Key :=
  keys.find? fun jwk => (kty = -1 || jwk.kty = kty) &&
    (match use, jwk.use with
      | some use, some own => own.startsWith use
      | _, _ => true)

/-- `oidc_proto_request_object_signing_jwk_get`: the key and the header with its identifier. -/
def signingJwkGet (provider : Provider) (header : Header) : Option (Key × Header) :=
  let kty := alg2kty header.alg
  if kty = ktyRsa ∨ kty = ktyEc then
    match provider.clientKeys.or provider.privateKeys with
    | none => none
    | some keys =>
        (keyListFirst keys kty (some "sig")).map fun key =>
          (key, { header with kid := key.kid.or header.kid })
  else if kty = ktyOct then
    (library.symmetricKey provider.clientSecret 0 false).map fun key => (key, header)
  else none

/-- `oidc_proto_request_object_sign`. -/
def sign (provider : Provider) (header : Header) (payload : Object) : Option String :=
  match signingJwkGet library provider header with
  | none => none
  | some (key, header) => library.jwtSign header payload key

/-- `oidc_alg2keysize`. -/
def alg2keysize (alg : Option String) : Nat :=
  match alg with
  | none => 0
  | some alg =>
      if alg = "A128KW" then 16
      else if alg = "A192KW" then 24
      else if alg = "A256KW" then 32
      else if alg = "RS256" ∨ alg = "PS256" ∨ alg = "HS256" then 32
      else if alg = "RS384" ∨ alg = "PS384" ∨ alg = "HS384" then 48
      else if alg = "RS512" ∨ alg = "PS512" ∨ alg = "HS512" then 64
      else 0

/-- `oidc_proto_request_object_encryption_jwk_by_type`. -/
def encryptionJwkByType (provider : Provider) (kty : Int) : Option Key :=
  match provider.jwks.bind (member · "keys") with
  | some (.arr keys) =>
      (keys.filterMap fun elem =>
        match (member elem "use").bind Json.stringValue with
        | some use => if use ≠ "enc" then none else library.parseJwk elem
        | none => library.parseJwk elem).find? fun key => kty = key.kty
  | _ => none

/-- `oidc_proto_request_object_encryption_jwk_get`. -/
def encryptionJwkGet (provider : Provider) (header : Header) : Option Key :=
  let kty := alg2kty header.alg
  if kty = ktyRsa ∨ kty = ktyEc then encryptionJwkByType library provider kty
  else if kty = ktyOct then
    library.symmetricKey provider.clientSecret (alg2keysize header.alg) true
  else none

/-- `oidc_proto_request_object_encrypt`. -/
def encrypt (provider : Provider) (header : Header) (cser : Option String) : Option String :=
  match encryptionJwkGet library provider header with
  | none => none
  | some key =>
      library.jwtEncrypt { header with
        enc := some (header.enc.getD "A128CBC-HS256")
        kid := key.kid.or header.kid } key cser

/-- A string among the settings of the cryptography. -/
def cryptoString (config : Object) (name : String) : Option String :=
  ((config.get "crypto").bind (member · name)).bind Json.stringValue

/-- `oidc_jose_jwt_serialize`. -/
def jwtSerialize (alg : String) (payload : Object) (signed : Option String) : Option String :=
  if alg = "none" then library.plainSerialize payload else signed.bind library.jwsExport

/-- The part of `oidc_proto_request_object_create` behind the copying. -/
def sealObject (provider : Provider) (config payload : Object) : Option String :=
  let alg := (cryptoString config "sign_alg").getD "none"
  let signed := if alg ≠ "none" then sign library provider { alg := some alg } payload else none
  if alg ≠ "none" ∧ signed = none then none
  else
    let cser := jwtSerialize library alg payload signed
    match cryptoString config "crypt_alg" with
    | some crypt =>
        encrypt library provider
          { alg := some crypt, enc := cryptoString config "crypt_enc", cty := some "JWT" } cser
    | none => cser

/-- `oidc_proto_request_object_create`. -/
def create (provider : Provider) (env : Env) (config : Object) (params : Params) (ttl : Int) :
    Option String × Params :=
  let (payload, params) :=
    paramsCopy library config (claimsSet library provider env config [] ttl) params
  (sealObject library provider config payload, params)

/-! ## Passing the object -/

/-- The parameters of the request, the parameter that was added to them, and what was stored in the
cache. -/
structure Outcome where
  params : Params
  added : Option (String × String) := none
  cached : Option (String × String) := none
  deriving DecidableEq, Repr

/-- `oidc_proto_request_uri_create`, with what was stored. -/
def requestUriCreate (provider : Provider) (env : Env) (config : Object) (params : Params)
    (ttl : Int) : Option String × Option (String × String) × Params :=
  let resolver :=
    match config.get "url" with
    | some url => url.stringValue.getD "(null)"
    | none => provider.redirectUri
  match create library provider env config params ttl with
  | (some object, params) =>
      match env.randStr with
      | some ref =>
          (some (resolver ++ "?request_uri=" ++ Http.urlEncode ref),
            if env.cacheSet ref object (env.now 3 + ttl) then some (ref, object) else none, params)
      | none => (none, none, params)
  | (none, params) => (none, none, params)

/-- The name of the parameter, unless the configuration has a bad one. -/
def parameterName (config : Object) : Option String :=
  match config.get "request_object_type" with
  | none => some "request_uri"
  | some (.str type) =>
      if type = "request" then some "request"
      else if type = "request_uri" then some "request_uri"
      else none
  | some _ => none

/-- `oidc_json_decode_object` on the configuration of request objects. -/
def requestObjectConfig (provider : Provider) : Option Object :=
  match provider.requestObject.bind library.loads with
  | some (.obj config) => some config
  | _ => none

/-- `oidc_proto_request_object_param_add`. -/
def paramAdd (provider : Provider) (env : Env) (params : Params) : Outcome :=
  match requestObjectConfig library provider with
  | none => { params }
  | some config =>
      match parameterName config with
      | none => { params }
      | some parameter =>
          let ttl := config.getInt "ttl" 30
          let (value, cached, params) :=
            if parameter = "request_uri" then
              requestUriCreate library provider env config params ttl
            else
              let (value, params) := create library provider env config params ttl
              (value, none, params)
          match value with
          | some value =>
              { params := CaseTable.set params parameter value, added := some (parameter, value)
                cached }
          | none => { params, cached }

end Model

end RequestObject

end Proto

end ModAuthOpenidc
