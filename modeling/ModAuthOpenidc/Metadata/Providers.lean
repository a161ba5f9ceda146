import ModAuthOpenidc.Histories
import ModAuthOpenidc.Metadata.Files
import ModAuthOpenidc.Metadata.Jwks
import ModAuthOpenidc.Proto.IdToken

/-!
# The metadata of providers

`src/metadata.c` puts together what is known of a provider: its own metadata, which are downloaded
from the issuer and refreshed from time to time, and those of the client, which is registered with
the provider if need be. All of it is kept in files, and any number of processes work on the files
at once. Each operation on a file and each request is one step here.
-/

namespace ModAuthOpenidc

namespace Metadata

open Proto (issuerMatch)
open Threads

/-! ## Settings -/

/-- What the module looks at in a parsed URL. -/
structure UrlParts where
  scheme : Option String
  hostname : Option String

/-- A provider as far as it has to do with the registration of the client. -/
structure Provider where
  /-- `oidc_cfg_provider_issuer_get`. -/
  issuer : Option String
  registrationEndpointUrl : Option String
  /-- The request that registers the client, nothing if the custom part of it is no object. -/
  registrationRequest : Option Object

/-- The configuration, and the functions that it is used with. -/
structure Settings where
  metadataDir : String
  /-- `oidc_cfg_provider_metadata_refresh_interval_get`, in seconds. -/
  refreshInterval : Int
  /-- Whether there are `private_keys`. -/
  privateKeys : Bool
  /-- `OIDC_JOSE_EC_SUPPORT`. -/
  ecSupport : Bool
  /-- `oidc_json_parse`. -/
  parse : String → Option Json
  /-- `apr_uri_parse`. -/
  uriParse : String → Option UrlParts
  /-- `apr_strnatcasecmp`. -/
  strnatcasecmp : String → String → Int
  /-- `oidc_metadata_conf_is_valid`. -/
  confIsValid : Object → Bool
  /-- `oidc_metadata_conf_parse_pre_provider`, `oidc_metadata_provider_parse` and
  `oidc_metadata_conf_parse`. -/
  providerParse : Option Object → Object → Option Provider
  /-- `oidc_metadata_client_parse`. -/
  clientParse : Object → Provider → Option Provider

section Checks

variable (settings : Settings)

/-! ## Checks -/

/-- `oidc_cfg_parse_is_valid_url_scheme`: whether there is no error. -/
def isValidUrlScheme (arg scheme1 : String) (scheme2 : Option String) : Bool :=
  match settings.uriParse arg with
  | none => false
  | some uri =>
      uri.scheme.any (fun scheme =>
        settings.strnatcasecmp scheme scheme1 = 0 ||
          scheme2.any fun scheme2 => settings.strnatcasecmp scheme scheme2 = 0) &&
        uri.hostname.isSome

/-- `oidc_cfg_parse_is_valid_http_url`. -/
def isValidHttpUrl (arg : String) : Bool := isValidUrlScheme settings arg "https" (some "http")

/-- `oidc_metadata_is_valid_uri`. -/
def isValidUri (json : Object) (key : String) (isMandatory : Bool) : Bool :=
  match json.getString key with
  | none => !isMandatory
  | some value => isValidHttpUrl settings value

/-- `oidc_metadata_valid_string_in_array` without a value to return: whether there is no error. -/
def validStringInArray (json : Object) (key : String) (valid : String → Bool) (optional : Bool) :
    Bool :=
  match json.get key with
  | some (.arr elements) => elements.any fun elem => elem.stringValue.any valid
  | _ => optional

/-- `oidc_proto_supported_flows`. -/
def supportedFlows : List String :=
  ["code", "id_token", "id_token token", "code id_token", "code token", "code id_token token"]

/-- `oidc_cfg_parse_is_valid_response_type`. -/
def isValidResponseType (arg : String) : Bool :=
  supportedFlows.any fun flow => spacedStringEquals (some arg) (some flow)

/-- `oidc_cfg_parse_is_valid_response_mode`. -/
def isValidResponseMode (arg : String) : Bool := arg ∈ ["fragment", "query", "form_post"]

/-- `oidc_valid_endpoint_auth_method_impl`. -/
def validEndpointAuthMethodImpl (arg : String) (hasPrivateKey allowMtls : Bool) : Bool :=
  arg ∈ ["client_secret_post", "client_secret_basic", "client_secret_jwt", "none",
      "bearer_access_token"] ++
    (if hasPrivateKey then ["private_key_jwt"] else []) ++
    (if allowMtls then ["tls_client_auth", "self_signed_tls_client_auth"] else [])

/-- `oidc_valid_private_key_jwt_alg`. -/
def validPrivateKeyJwtAlg (arg : String) : Bool :=
  arg ∈ ["RS256", "RS384", "RS512", "PS256", "PS384", "PS512"] ++
    (if settings.ecSupport then ["ES256", "ES384", "ES512"] else [])

/-- `oidc_cfg_endpoint_auth_parse`: the method, and what is behind a colon. -/
def endpointAuthParse (arg : String) : String × Option String :=
  (String.ofList (arg.toList.takeWhile (· ≠ ':')),
    match arg.toList.dropWhile (· ≠ ':') with
    | [] => none
    | _ :: suffix => some (String.ofList suffix))

/-- `oidc_cfg_valid_endpoint_auth_method_alg`. -/
def validEndpointAuthMethodAlg (arg : String) (allowMtls : Bool) : Bool :=
  let (method, alg) := endpointAuthParse arg
  (method ≠ "private_key_jwt" || alg.all (validPrivateKeyJwtAlg settings)) &&
    validEndpointAuthMethodImpl method true allowMtls

/-- The function that `oidc_cfg_get_valid_endpoint_auth_function` returns. -/
def validEndpointAuth (allowMtls : Bool) (arg : String) : Bool :=
  if settings.privateKeys then validEndpointAuthMethodAlg settings arg allowMtls
  else validEndpointAuthMethodImpl arg false allowMtls

/-- `oidc_metadata_provider_is_valid` for an issuer. -/
def providerIsValid (provider : Object) (issuer : String) : Bool :=
  (provider.getString "issuer").any (issuerMatch issuer) &&
    (validStringInArray provider "response_types_supported" isValidResponseType false ||
      (provider.get "response_types_supported").isNone) &&
    validStringInArray provider "response_modes_supported" isValidResponseMode true &&
    isValidUri settings provider "authorization_endpoint" true &&
    isValidUri settings provider "token_endpoint" false &&
    isValidUri settings provider "userinfo_endpoint" false &&
    isValidUri settings provider "jwks_uri" false &&
    isValidUri settings provider "signed_jwks_uri" false &&
    validStringInArray provider "token_endpoint_auth_methods_supported"
      (validEndpointAuth settings true) true

/-- `oidc_json_decode_object`. -/
def decodeObject (text : String) : Option Object :=
  match settings.parse text with
  | some (.obj members) => some members
  | _ => none

/-- `oidc_json_decode_and_check_error`. -/
def decodeAndCheckError (text : String) : Option Object :=
  (decodeObject settings text).filter fun object => !Jwks.Client.checkError object

/-! ## Operations -/

/-- The operations that other processes may come in between. -/
inductive Op
  /-- `apr_time_now`. -/
  | now
  /-- `apr_stat` for the time of modification. -/
  | stat (path : String)
  /-- `oidc_util_file_read`. -/
  | read (path : String)
  /-- `apr_file_mtime_set`. -/
  | touch (path : String) (time : Int)
  /-- `oidc_util_file_write`. -/
  | write (path text : String)
  /-- `oidc_http_get`. -/
  | get (url : String) (params : List (String × String))
  /-- `oidc_http_post_json`. -/
  | post (url : String) (data : Object)

/-- What an operation returns: nothing if it fails. -/
def Answer : Op → Type
  | .now => Int
  | .stat _ => Option Int
  | .read _ => Option String
  | .touch _ _ => Unit
  | .write _ _ => Bool
  | .get _ _ => Option String
  | .post _ _ => Option String

/-- A program of a process. -/
abbrev Prog := Program Op Answer

/-- The next operation of a program. -/
abbrev run (op : Op) : Prog (Answer op) := Program.call op

/-! ## The metadata of a provider -/

/-- The address of the metadata of an issuer. -/
def wellKnown (issuer : String) : String :=
  let url := if "http://".toList <+: issuer.toList ∨ "https://".toList <+: issuer.toList then issuer
    else "https://" ++ issuer
  url ++ (if url.toList.getLast? = some '/' then "" else "/") ++ ".well-known/openid-configuration"

/-- The metadata if they are valid. -/
def validated (issuer : String) (metadata : Object) : Option Object :=
  if providerIsValid settings metadata issuer then some metadata else none

/-- `oidc_metadata_provider_retrieve`: the response with the metadata in it. -/
def providerRetrieve (issuer url : String) : Prog (Option (String × Object)) := do
  let response : Option String ← run (.get url [])
  pure (response.bind fun text => (decodeAndCheckError settings text).bind fun metadata =>
    (validated settings issuer metadata).map (text, ·))

/-- Whether the file of a provider need not be refreshed. -/
def useCache (mtime : Option Int) : Prog Bool :=
  match mtime with
  | none => pure true
  | some mtime => do
      let now : Int ← run .now
      pure (now < mtime + settings.refreshInterval * 1000000)

/-- The time of the file of a provider, if files are refreshed at all. -/
def cacheTime (path : String) : Prog (Option Int) :=
  if 0 < settings.refreshInterval then run (.stat path) else pure none

/-- The part of `oidc_metadata_provider_get` for what is not there or has to be refreshed. -/
def providerRefresh (issuer : String) (allowDiscovery : Bool) (mtime : Option Int)
    (cached : Option Object) : Prog (Option Object) :=
  if mtime = none ∧ allowDiscovery = false then pure none
  else do
    let retrieved ← providerRetrieve settings issuer (wellKnown issuer)
    match retrieved, mtime, cached with
    | some (response, metadata), _, _ => do
        let _ ← run (.write (providerFilePath settings.metadataDir issuer) response)
        pure (some metadata)
    | none, some _, some cached => do
        let now : Int ← run .now
        let _ ← run (.touch (providerFilePath settings.metadataDir issuer) now)
        pure (validated settings issuer cached)
    | none, _, _ => pure none

/-- `oidc_metadata_provider_get`: the metadata if it succeeds. -/
def providerGet (issuer : String) (allowDiscovery : Bool) : Prog (Option Object) := do
  let mtime ← cacheTime settings (providerFilePath settings.metadataDir issuer)
  let fresh ← useCache settings mtime
  let content : Option String ← run (.read (providerFilePath settings.metadataDir issuer))
  match content.bind (decodeObject settings), fresh with
  | some cached, true => pure (validated settings issuer cached)
  | cached, _ => providerRefresh settings issuer allowDiscovery mtime cached

/-- `oidc_metadata_conf_get`: the settings for the provider if there are any, nothing if it fails.
-/
def confGet (issuer : String) : Prog (Option (Option Object)) := do
  let mtime : Option Int ← run (.stat (confPath settings.metadataDir issuer))
  match mtime with
  | none => pure (some none)
  | some _ => do
      let content : Option String ← run (.read (confPath settings.metadataDir issuer))
      pure ((content.bind (decodeObject settings)).bind fun conf =>
        if settings.confIsValid conf then some (some conf) else none)

/-! ## The metadata of the client -/

/-- `oidc_metadata_client_is_valid`: the clock is read for a secret that expires. -/
def clientIsValid (client : Object) : Prog Bool :=
  if (client.getString "client_id").isNone then pure false
  else
    match client.get "client_secret_expires_at" with
    | some (.int expiresAt) =>
        if expiresAt = 0 then pure true
        else do
          let now : Int ← run .now
          pure (decide (Int.tdiv now 1000000 ≤ expiresAt))
    | _ => pure true

/-- `oidc_metadata_client_register`: the response with the metadata in it. -/
def clientRegister (url : String) (request : Option Object) : Prog (Option (String × Object)) :=
  match request with
  | none => pure none
  | some request => do
      let response : Option String ← run (.post url request)
      pure (response.bind fun text => (decodeAndCheckError settings text).map (text, ·))

/-- The part of `oidc_metadata_client_get` without valid metadata. -/
def clientRenew (issuer : String) (provider : Provider) : Prog (Option Object) :=
  match provider.registrationEndpointUrl with
  | none => pure none
  | some url => do
      let registered ← clientRegister settings url provider.registrationRequest
      match registered with
      | none => pure none
      | some (response, client) => do
          let valid ← clientIsValid client
          if valid then do
            let written : Bool ← run (.write (clientFilePath settings.metadataDir issuer) response)
            pure (if written then some client else none)
          else pure none

/-- `oidc_metadata_client_get`. -/
def clientGet (issuer : String) (provider : Provider) : Prog (Option Object) := do
  let content : Option String ← run (.read (clientFilePath settings.metadataDir issuer))
  match content.bind (decodeObject settings) with
  | none => clientRenew settings issuer provider
  | some client => do
      let valid ← clientIsValid client
      if valid then pure (some client) else clientRenew settings issuer provider

/-- `oidc_metadata_get`. -/
def metadataGet (issuer : String) (allowDiscovery : Bool) : Prog (Option Provider) := do
  let metadata ← providerGet settings issuer allowDiscovery
  match metadata with
  | none => pure none
  | some metadata => do
      let conf ← confGet settings issuer
      match conf.bind fun conf => settings.providerParse conf metadata with
      | none => pure none
      | some provider => do
          let client ← clientGet settings issuer provider
          pure (client.bind fun client => settings.clientParse client provider)

end Checks

end Metadata

end ModAuthOpenidc
