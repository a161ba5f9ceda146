import ModAuthOpenidc.ExpositionWriter
import ModAuthOpenidc.Metrics.Document
import ModAuthOpenidc.Text

/-!
# Output for Prometheus

The document in shared memory is written in the text format of a metrics collector. The entries of
all servers are first sorted by their type, and every type becomes a family. Server names, claim
names and values are pasted between quotes as they are.
-/

namespace ModAuthOpenidc

/-- The members of an object, in the order of an iteration. -/
def Json.iterated : Json → Object
  | .obj members => members
  | _ => []

namespace Metrics

/-! ## The tables of metrics -/

/-- `oidc_metrics_timing_info_t` and `oidc_metrics_counter_info_t`. -/
structure Info where
  className : String
  metricName : String
  desc : String

/-- `_oidc_metrics_timings_info`. -/
def timingsInfo : List Info :=
  [⟨"authtype", "handler", "the overall authn+authz processing time"⟩,
    ⟨"authn", "request", "authentication requests"⟩,
    ⟨"authn", "response", "authentication responses"⟩,
    ⟨"session", "valid", "successfully validated existing sessions"⟩,
    ⟨"provider", "metadata", "provider discovery document requests"⟩,
    ⟨"provider", "token", "provider token requests"⟩,
    ⟨"provider", "refresh", "provider refresh token requests"⟩,
    ⟨"provider", "userinfo", "provider userinfo requests"⟩,
    ⟨"provider", "jwks", "provider JWKs document requests"⟩,
    ⟨"provider", "par", "provider pushed authorization requests"⟩,
    ⟨"cache", "read", "cache read requests"⟩,
    ⟨"cache", "write", "cache write requests"⟩]

/-- `_oidc_metrics_counters_info`. -/
def countersInfo : List Info :=
  [⟨"authtype", "mod_auth_openidc", "requests handled by mod_auth_openidc"⟩,
    ⟨"authtype", "openid-connect", "requests handled by AuthType openid-connect"⟩,
    ⟨"authtype", "oauth20", "requests handled by AuthType oauth20"⟩,
    ⟨"authtype", "auth-openidc", "requests handled by AuthType auth-openidc"⟩,
    ⟨"authtype", "declined", "requests not handled by mod_auth_openidc"⟩,
    ⟨"authn", "request.error.url",
      "errors matching the incoming request URL against the configuration"⟩,
    ⟨"authn", "response.error.state-mismatch", "state mismatch errors in authentication responses"⟩,
    ⟨"authn", "response.error.state-expired", "state expired errors in authentication responses"⟩,
    ⟨"authn", "response.error.provider",
      "errors returned by the provider in authentication responses"⟩,
    ⟨"authn", "response.error.protocol", "protocol errors handling authentication responses"⟩,
    ⟨"authn", "response.error.remote-user",
      "errors identifying the remote user based on provided claims"⟩,
    ⟨"authz", "action.auth", "step-up authentication requests"⟩,
    ⟨"authz", "action.401", "401 authorization errors"⟩,
    ⟨"authz", "action.403", "403 authorization errors"⟩,
    ⟨"authz", "action.302", "302 authorization errors"⟩,
    ⟨"authz", "error.oauth20", "AuthType oauth20 (401) authorization errors"⟩,
    ⟨"require.claim", "match", "(per-) Require claim authorization matches"⟩,
    ⟨"require.claim", "error", "(per-) Require claim authorization errors"⟩,
    ⟨"claim", "id_token", "claim values in the ID Token"⟩,
    ⟨"claim", "userinfo", "claim values returned from the Userinfo Endpoint"⟩,
    ⟨"provider", "metadata.error", "errors retrieving a provider discovery document"⟩,
    ⟨"provider", "token.error", "errors making a token request to a provider"⟩,
    ⟨"provider", "refresh.error", "errors refreshing the access token at the token endpoint"⟩,
    ⟨"provider", "userinfo.error", "errors calling a provider userinfo endpoint"⟩,
    ⟨"provider", "http.connect.error", "(libcurl) provider/network connectivity errors"⟩,
    ⟨"provider", "http.response.code", "HTTP response code calling a provider endpoint"⟩,
    ⟨"provider", "jwks.error", "errors retrieving a provider JWKs document"⟩,
    ⟨"provider", "par.error", "errors making a pushed authorization request to a provider"⟩,
    ⟨"provider", "registration.error", "errors registering a client dynamically at a provider"⟩,
    ⟨"provider", "revocation.error", "errors revoking a token at a provider revocation endpoint"⟩,
    ⟨"provider", "dpop.retry", "provider calls retried with a fresh DPoP nonce"⟩,
    ⟨"session", "error.cookie-domain", "cookie domain validation errors for existing sessions"⟩,
    ⟨"session", "error.expired", "sessions that exceeded the maximum duration"⟩,
    ⟨"session", "error.refresh-access-token",
      "errors refreshing the access token before expiry in existing sessions"⟩,
    ⟨"session", "error.refresh-user-info",
      "errors refreshing claims from the userinfo endpoint in existing sessions"⟩,
    ⟨"session", "error.general", "existing sessions that failed validation"⟩,
    ⟨"session", "fallback-cookie",
      "sessions stored in a browser cookie after a session cache write failure"⟩,
    ⟨"cache", "cache.error", "cache read/write errors"⟩,
    ⟨"cache", "cache.retry", "cache operations retried after a backend failure"⟩,
    ⟨"logout", "backchannel", "back-channel logout requests processed successfully"⟩,
    ⟨"logout", "backchannel.error", "back-channel logout requests rejected"⟩,
    ⟨"redirect_uri", "authn.response.redirect", "authentication responses received in a redirect"⟩,
    ⟨"redirect_uri", "authn.response.post", "authentication responses received in a HTTP POST"⟩,
    ⟨"redirect_uri", "authn.response.implicit",
      "(presumed) implicit authentication responses to the redirect URI"⟩,
    ⟨"redirect_uri", "discovery.response", "discovery responses to the redirect URI"⟩,
    ⟨"redirect_uri", "request.logout", "logout requests to the redirect URI"⟩,
    ⟨"redirect_uri", "request.jwks", "JWKs retrieval requests to the redirect URI"⟩,
    ⟨"redirect_uri", "request.session", "session management requests to the redirect URI"⟩,
    ⟨"redirect_uri", "request.refresh", "refresh access token requests to the redirect URI"⟩,
    ⟨"redirect_uri", "request.request_uri", "Request URI calls to the redirect URI"⟩,
    ⟨"redirect_uri", "request.remove_at_cache",
      "access token cache removal requests to the redirect URI"⟩,
    ⟨"redirect_uri", "request.revoke_session", "revoke session requests to the redirect URI"⟩,
    ⟨"redirect_uri", "request.info", "info hook requests to the redirect URI"⟩,
    ⟨"redirect_uri", "request.dpop", "DPoP requests to the redirect URI"⟩,
    ⟨"redirect_uri", "error.provider",
      "provider authentication response errors received at the redirect URI"⟩,
    ⟨"redirect_uri", "error.invalid", "invalid requests to the redirect URI"⟩,
    ⟨"content", "request.declined", "requests declined by the content handler"⟩,
    ⟨"content", "request.info", "info hook requests to the content handler"⟩,
    ⟨"content", "request.dpop", "DPoP requests to the content handler"⟩,
    ⟨"content", "request.jwks", "JWKs requests to the content handler"⟩,
    ⟨"content", "request.discovery", "discovery requests to the content handler"⟩,
    ⟨"content", "request.post-preserve", "HTTP POST preservation requests to the content handler"⟩,
    ⟨"content", "request.authn-post", "HTTP POST authentication requests to the content handler"⟩,
    ⟨"content", "request.unknown", "unknown requests to the content handler"⟩]

/-- The entry of a type. No document has a type behind the last one. -/
def infoOf (infos : List Info) (type : Nat) : Info := infos.getD type ⟨"", "", ""⟩

/-- `_oidc_metrics_counter_type2s` and `_oidc_metrics_timing_type2s`. -/
def type2s (infos : List Info) (type : Nat) : String :=
  (infoOf infos type).className ++ "." ++ (infoOf infos type).metricName

/-- `_oidc_metrics_key2type`: the conversion `%u` of `sscanf`, and zero if there is no number. -/
def key2type (key : String) : Nat :=
  let text := key.toList.dropWhile isSpace
  let negative := text.head? = some '-'
  let digits :=
    (if negative ∨ text.head? = some '+' then text.tail else text).takeWhile Char.isDigit
  let value := min (Nat.ofDigitChars 10 digits 0) (2 ^ 64 - 1)
  (if negative then 2 ^ 64 - value else value) % 2 ^ 32

/-- The bound of a bucket in milliseconds, by its name. -/
def bucketBounds : List (String × String) :=
  [("le01", "0.1"), ("le05", "0.5"), ("le1", "1"), ("le5", "5"), ("le10", "10"), ("le50", "50"),
    ("le100", "100"), ("le500", "500"), ("le1000", "1000"), ("le5000", "5000"), ("inf", "+Inf")]

/-- `oidc_metrics_prometheus_bucket_label`. -/
def prometheusBucketLabel (jsonName : String) : Option String :=
  (bucketBounds.find? fun bucket => bucket.1 = jsonName).map fun bucket =>
    "le=\"" ++ bucket.2 ++ "\""

/-- `oidc_metric_prometheus_normalize_name`. -/
def prometheusNormalizeName (name : String) : String :=
  "oidc_" ++ String.ofList (name.toList.map fun c => if c.isAlphanum then c else '_')

/-! ## The text -/

/-- `oidc_metrics_prometheus_counter_named`. -/
def prometheusCounterNamed (text start key : String) (value : Json) : String :=
  value.iterated.foldl (fun text member =>
    text ++ start ++ ",name=\"" ++ key ++ "\",value=\"" ++ member.1 ++ "\"\x7d " ++
      toString member.2.integerValue ++ "\n") text

/-- `oidc_metrics_prometheus_counter_keyed`. -/
def prometheusCounterKeyed (text start : String) (counter : Json) : String :=
  counter.iterated.foldl (fun text member =>
    match member.2 with
    | .int n => text ++ start ++ ",value=\"" ++ member.1 ++ "\"\x7d " ++ toString n ++ "\n"
    | value => prometheusCounterNamed text start member.1 value) text

/-- `oidc_metrics_prometheus_counters`: what is appended to the result. -/
def prometheusCounters (key : String) (value : Json) : String :=
  let type := key2type key
  let label := prometheusNormalizeName (type2s countersInfo type)
  let text := "# HELP " ++ label ++ " The number of " ++ (infoOf countersInfo type).desc ++ ".\n"
  let text := text ++ "# TYPE " ++ label ++ " counter\n"
  let text := value.iterated.foldl (fun text server =>
    let start := label ++ "\x7bserver_name=\"" ++ server.1 ++ "\""
    match server.2 with
    | .int n => text ++ start ++ "\x7d " ++ toString n ++ "\n"
    | counter => prometheusCounterKeyed text start counter) text
  text ++ "\n"

/-- `oidc_metrics_prometheus_timings`: what is appended to the result. -/
def prometheusTimings (key : String) (value : Json) : String :=
  let type := key2type key
  let label := prometheusNormalizeName (type2s timingsInfo type)
  let text := "# HELP " ++ label ++ " A histogram of " ++ (infoOf timingsInfo type).desc ++ ".\n"
  let text := text ++ "# TYPE " ++ label ++ " histogram\n"
  let text := value.iterated.foldl (fun text server =>
    server.2.iterated.foldl (fun text member =>
      let text :=
        match prometheusBucketLabel member.1 with
        | some bucket => text ++ label ++ "_bucket\x7b" ++ bucket ++ ","
        | none => text ++ label ++ "_" ++ member.1 ++ "\x7b"
      text ++ "server_name=\"" ++ server.1 ++ "\"\x7d " ++ toString member.2.integerValue ++ "\n")
      text) text
  text ++ "\n"

/-- `oidc_metrics_prometheus_convert`: the entries of one server are put under their types. -/
def prometheusConvert (utf8 : String → Bool) (hash : Hash Json) (server : String)
    (list : Option Json) : Hash Json :=
  ((list.map Json.iterated).getD []).foldl (fun hash entry =>
    hash.set entry.1 (((hash.get entry.1).getD (.obj [])).setNew utf8 server entry.2)) hash

/-- The order in which a hash table is iterated. -/
structure Iteration where
  order : Hash Json → Hash Json
  /-- Every entry comes once. -/
  perm : ∀ hash, (order hash).Perm hash

/-- The entries of one group of all servers by type. -/
def byType (utf8 : String → Bool) (json : Json) (group : String) : Hash Json :=
  json.iterated.foldl (fun hash server =>
    prometheusConvert utf8 hash server.1 (server.2.member group)) []

/-- The text that `oidc_metrics_handle_prometheus` sends for a document. -/
def prometheusText (utf8 : String → Bool) (iteration : Iteration) (json : Json) : String :=
  let result := (iteration.order (byType utf8 json "counters")).foldl
    (fun result entry => result ++ prometheusCounters entry.1 entry.2) ""
  (iteration.order (byType utf8 json "timings")).foldl
    (fun result entry => result ++ prometheusTimings entry.1 entry.2) result

/-- `oidc_metrics_handle_prometheus`: the text that is sent, if the stored one can be parsed. -/
def handlePrometheus (jansson : Jansson) (iteration : Iteration) (json : String) : Option String :=
  (jansson.loads json).map (prometheusText jansson.utf8 iteration)

end Metrics

end ModAuthOpenidc
