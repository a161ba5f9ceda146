import ModAuthOpenidc.Handle.Discovery
import ModAuthOpenidc.Http.Cookie
import ModAuthOpenidc.Metadata.ProviderSafety
import ModAuthOpenidc.Util.Query

/-!
# Discovery responses

Anybody can send a discovery response: it names a provider, or a user whose provider is found by a
request to the host of that user, and the page to go to. So it is the sender who decides where the
module connects to, as far as `OIDCDiscoverIssuersAllowed` lets him. With the token that the
discovery page has left in a cookie, he may also use a provider that was not known before, and have
a say in the authorization request.
-/

namespace ModAuthOpenidc

namespace Handle

namespace Discovery

open Http (getCookie)
open Metadata (Answer Op Prog Provider decodeAndCheckError run)
open Threads
open Util (hasParameter parameterGet)

/-! ## Settings -/

/-- The configuration with the functions of libraries, and what is known when the response comes in.
-/
structure Setup where
  runtime : Runtime
  config : Config
  settings : Metadata.Settings
  /-- Whether there is a `OIDCMetadataDir`. -/
  multiple : Bool
  /-- `OIDCDiscoverIssuersAllowed`. -/
  issuersAllowed : Option (List String)
  /-- `oidc_util_regexp_first_match` of a text with an expression. -/
  firstMatch : String → String → Bool
  /-- The hostname and the port that `apr_uri_parse` leaves. -/
  authority : String → Option String × Option String
  /-- The provider that `oidc_provider_static_config` finds. -/
  staticProvider : Option Provider
  /-- The issuer of the statically configured provider. -/
  configuredIssuer : Option String

/-- The request, as far as it is looked at. -/
structure Request where
  /-- The query. -/
  args : Option String
  /-- The `Cookie` header. -/
  cookies : Option String

/-- What the response leads to. -/
inductive Outcome
  | refused (refusal : Refusal)
  /-- `oidc_request_authenticate_user`. -/
  | authenticate (provider : Option Provider) (originalUrl : String)
      (loginHint authRequestParams pathScopes : Option String)
  /-- The end of a test of the metadata. -/
  | tested
  /-- A test of the keys, which are downloaded. -/
  | testJwks (provider : Provider)
  /-- Without an issuer, the behaviour is undefined. -/
  | undefined

/-- What the response leads to, and whether the token is taken off the browser. -/
structure Handled where
  clearsToken : Bool
  outcome : Outcome

section Functions

variable (setup : Setup)

/-! ## The parts -/

/-- `oidc_is_discovery_response`. -/
def isDiscoveryResponse (request : Request) : Bool :=
  hasParameter request.args "iss" || hasParameter request.args "disc_user"

/-- `oidc_discovery_response_csrf_check`. -/
def csrfCheck (request : Request) : Bool :=
  match getCookie request.cookies "x_csrf" with
  | none => false
  | some cookie => parameterGet request.args "x_csrf" = some cookie

/-- `oidc_discovery_response_input_trim`. -/
def inputTrim (value : String) : String :=
  String.ofList ((value.toList.dropWhile isSpace).reverse.dropWhile isSpace).reverse

/-- `oidc_discovery_issuer_allowed`. -/
def issuerAllowed (issuer : String) : Bool :=
  match setup.issuersAllowed with
  | none => true
  | some allowed => allowed.any fun pattern => setup.firstMatch issuer pattern

/-- `oidc_proto_webfinger_response_get_issuer`. -/
def webfingerResponseGetIssuer (response : String) : Option String := do
  let object ← decodeAndCheckError setup.settings response
  match object.get "links" with
  | some (.arr (.obj link :: _)) =>
      match Object.get link "href" with
      | some (.str href) =>
          if Metadata.isValidUrlScheme setup.settings href "https" none then some href else none
      | _ => none
  | _ => none

/-- The address of the webfinger of a domain. -/
def webfingerUrl (domain : String) : String := "https://" ++ domain ++ "/.well-known/webfinger"

/-- The parameters of a webfinger request. -/
def webfingerParams (resource : String) : List (String × String) :=
  [("resource", resource), ("rel", "http://openid.net/specs/connect/1.0/issuer")]

/-- `oidc_proto_webfinger_discovery`. -/
def webfingerDiscovery (resource domain : String) : Prog (Option String) := do
  let response : Option String ← run (.get (webfingerUrl domain) (webfingerParams resource))
  pure (response.bind (webfingerResponseGetIssuer setup))

/-- What is behind the last `@`, if there is one. -/
def behindAt (acct : String) : Option String :=
  if '@' ∈ acct.toList then
    some (String.ofList (acct.toList.reverse.takeWhile (· ≠ '@')).reverse)
  else none

/-- `oidc_proto_discovery_account_based`. -/
def accountBased (acct : String) : Prog (Option String) :=
  match behindAt acct with
  | none => pure none
  | some domain => webfingerDiscovery setup ("acct:" ++ acct) domain

/-- The domain of a user, as it is printed if there is none. -/
def urlDomain (url : String) : String :=
  match setup.authority url with
  | (hostname, none) => hostname.getD "(null)"
  | (hostname, some port) => hostname.getD "(null)" ++ ":" ++ port

/-- `oidc_proto_discovery_url_based`. -/
def urlBased (url : String) : Prog (Option String) :=
  webfingerDiscovery setup url (urlDomain setup url)

/-- The identifier of a user, normalized. -/
def userUrl (user : String) : String :=
  if "https://".toList <+: user.toList then user else "https://" ++ user

/-- The issuer that stands for the domain of an account. -/
def domainIssuer (issuer : String) : String := "https://" ++ (behindAt issuer).getD issuer

def invalidRequest (description : String) (status : Nat) : Outcome :=
  .refused { error := "Invalid Request", description := description, status := status }

/-- `oidc_discovery_response_resolve_issuer`: the issuer and the login hint. -/
def resolveIssuer (user issuer loginHint : Option String) :
    Prog (Except Outcome (Option String × Option String)) :=
  match user with
  | some user =>
      if issuerAllowed setup (userUrl user) = false then
        pure (.error (invalidRequest ("The provided user identifier is not in the list of " ++
          "allowed issuers; contact the administrator") 401))
      else do
        let resolved ← urlBased setup (userUrl user)
        match resolved with
        | some resolved => pure (.ok (some resolved, loginHint.or (some user)))
        | none =>
            pure (.error (invalidRequest ("Could not resolve the provided user identifier to an " ++
              "OpenID Connect provider; check your syntax.") 404))
  | none =>
      match issuer with
      | none => pure (.ok (none, loginHint))
      | some issuer =>
          if '@' ∉ issuer.toList then pure (.ok (some issuer, loginHint))
          else if issuerAllowed setup (domainIssuer issuer) = false then
            pure (.error (invalidRequest ("The provided account name is not in the list of " ++
              "allowed issuers; contact the administrator") 401))
          else do
            let resolved ← accountBased setup issuer
            match resolved with
            | some resolved => pure (.ok (some resolved, loginHint.or (some issuer)))
            | none =>
                pure (.error (invalidRequest ("Could not resolve the provided account name to " ++
                  "an OpenID Connect provider; check your syntax.") 404))

/-- `oidc_discovery_response_static`. -/
def responseStatic (issuer : Option String) (targetLinkUri : String)
    (loginHint authRequestParams pathScopes : Option String) : Outcome :=
  match setup.staticProvider, issuer with
  | some provider, some issuer =>
      if provider.issuer = some issuer then
        .authenticate none targetLinkUri loginHint authRequestParams pathScopes
      else
        invalidRequest ("The \"iss\" value must match the configured providers' one (" ++ issuer ++
          " != " ++ setup.configuredIssuer.getD "(null)" ++ ").") 500
  | _, _ => .authenticate none targetLinkUri loginHint authRequestParams pathScopes

/-- The text without a slash at its end. -/
def stripSlash (issuer : String) : String := String.ofList (Metadata.withoutSlash issuer.toList)

/-- `oidc_discovery_response_authenticate`. -/
def responseAuthenticate (args : Option String) (issuer : String) (targetLinkUri : String)
    (loginHint authRequestParams pathScopes : Option String) (allowDynReg : Bool) : Prog Outcome :=
  if issuerAllowed setup (stripSlash issuer) = false then
    pure (invalidRequest ("The selected OpenID Connect provider issuer is not in the list of " ++
      "allowed issuers; contact the administrator") 401)
  else if hasParameter args "test-config" then do
    let _ ← Metadata.providerGet setup.settings (stripSlash issuer) allowDynReg
    pure .tested
  else do
    let provider ← Metadata.metadataGet setup.settings (stripSlash issuer) allowDynReg
    match provider with
    | none =>
        pure (invalidRequest ("Could not find valid provider metadata for the selected OpenID " ++
          "Connect provider; contact the administrator") 404)
    | some provider =>
        if hasParameter args "test-jwks-uri" then pure (.testJwks provider)
        else
          pure (.authenticate (some provider) targetLinkUri loginHint authRequestParams pathScopes)

/-! ## The whole -/

/-- What only a response with the token may set. -/
def privileged (request : Request) (name : String) : Option String :=
  if csrfCheck request then parameterGet request.args name else none

/-- The part of `oidc_discovery_response` behind the check of the target. -/
def respond (request : Request) (targetLinkUri : String) : Prog Outcome :=
  let issuer := (parameterGet request.args "iss").map inputTrim
  let user := (parameterGet request.args "disc_user").map inputTrim
  let loginHint := parameterGet request.args "login_hint"
  let authRequestParams := privileged request "auth_request_params"
  let pathScopes := privileged request "scopes"
  if setup.multiple = false then
    pure (responseStatic setup issuer targetLinkUri loginHint authRequestParams pathScopes)
  else do
    let resolved ← resolveIssuer setup user issuer loginHint
    match resolved with
    | .error outcome => pure outcome
    | .ok (none, _) => pure .undefined
    | .ok (some issuer, loginHint) =>
        responseAuthenticate setup request.args issuer targetLinkUri loginHint authRequestParams
          pathScopes (csrfCheck request)

/-- `oidc_discovery_response`. -/
def discoveryResponse (request : Request) : Prog Handled := do
  let outcome ←
    match targetLinkUriValidate setup.runtime setup.config
        (parameterGet request.args "target_link_uri") with
    | .error refusal => pure (.refused refusal)
    | .ok targetLinkUri => respond setup request targetLinkUri
  pure ⟨(getCookie request.cookies "x_csrf").isSome, outcome⟩

end Functions

/-! ## Where the module connects to -/

section Guarded

variable (setup : Setup) (request : Request)

/-- Requests to the webfinger of a user whose identifier is allowed, or of a domain that is. -/
inductive Webfinger : Op → Prop
  | user {user : String} (allowed : issuerAllowed setup (userUrl user) = true) :
      Webfinger (.get (webfingerUrl (urlDomain setup (userUrl user)))
        (webfingerParams (userUrl user)))
  | account {acct domain : String} (behind : behindAt acct = some domain)
      (allowed : issuerAllowed setup ("https://" ++ domain) = true) :
      Webfinger (.get (webfingerUrl domain) (webfingerParams ("acct:" ++ acct)))

/-- What a response may make the module do. -/
def Guard (events : History Answer) (op : Op) : Prop :=
  Webfinger setup op ∨ ∃ issuer, issuerAllowed setup issuer = true ∧
    Metadata.Policy setup.settings issuer (csrfCheck request) events op

/-- A provider was put together from what was obtained for an allowed issuer. -/
def Selected (events : History Answer) (provider : Provider) : Prop :=
  ∃ issuer, issuerAllowed setup issuer = true ∧ ∃ metadata conf client registered,
    Metadata.Obtained setup.settings issuer events metadata ∧
    Metadata.ConfRead setup.settings issuer events conf ∧
    Metadata.Held setup.settings issuer events client ∧
    setup.settings.providerParse conf metadata = some registered ∧
    setup.settings.clientParse client registered = some provider

/-- What a response may lead to. -/
def Right (events : History Answer) : Outcome → Prop
  | .refused _ | .tested => True
  | .undefined => isDiscoveryResponse request = false
  | .testJwks provider => Selected setup events provider
  | .authenticate none originalUrl _ authRequestParams pathScopes =>
      targetLinkUriValidate setup.runtime setup.config
        (parameterGet request.args "target_link_uri") = .ok originalUrl ∧
      (csrfCheck request = false → authRequestParams = none ∧ pathScopes = none) ∧
      setup.multiple = false
  | .authenticate (some provider) originalUrl _ authRequestParams pathScopes =>
      targetLinkUriValidate setup.runtime setup.config
        (parameterGet request.args "target_link_uri") = .ok originalUrl ∧
      (csrfCheck request = false → authRequestParams = none ∧ pathScopes = none) ∧
      Selected setup events provider

variable {setup request} {events : History Answer}

theorem privileged_none {name : String} (forged : csrfCheck request = false) :
    privileged request name = none := by
  rw [privileged, forged]
  rfl

theorem follows_webfinger {resource domain : String}
    (allowed : Webfinger setup (.get (webfingerUrl domain) (webfingerParams resource))) :
    (webfingerDiscovery setup resource domain).Follows (Guard setup request)
      (fun _ _ => True) events :=
  .call (.inl allowed) fun _ => .pure trivial

/-- What the search for an issuer may end with: without one only if none was named. -/
def Resolves (user issuer : Option String) :
    Except Outcome (Option String × Option String) → Prop
  | .error outcome => ∃ refusal, outcome = .refused refusal
  | .ok (issuer', _) => issuer' = none → user = none ∧ issuer = none

theorem resolves_refused (user issuer : Option String) (description : String) (status : Nat) :
    Resolves user issuer (.error (invalidRequest description status)) := ⟨_, rfl⟩

theorem follows_resolveIssuer (user issuer loginHint : Option String) :
    (resolveIssuer setup user issuer loginHint).Follows (Guard setup request)
      (fun _ resolved => Resolves user issuer resolved) events := by
  cases user with
  | some user =>
      refine .ite (fun _ => .pure (resolves_refused ..)) fun allowed => ?_
      have allowed : issuerAllowed setup (userUrl user) = true :=
        Bool.eq_true_of_not_eq_false allowed
      refine (follows_webfinger (.user allowed)).bind fun events' resolved _ _ => ?_
      cases resolved with
      | none => exact .pure (resolves_refused ..)
      | some resolved => exact .pure fun none => by cases none
  | none =>
      cases issuer with
      | none => exact .pure fun _ => ⟨rfl, rfl⟩
      | some issuer =>
          refine .ite (fun _ => .pure fun none => by cases none) fun account => ?_
          refine .ite (fun _ => .pure (resolves_refused ..)) fun allowed => ?_
          have allowed : issuerAllowed setup (domainIssuer issuer) = true :=
            Bool.eq_true_of_not_eq_false allowed
          have behind : behindAt issuer = some (String.ofList
              (issuer.toList.reverse.takeWhile (· ≠ '@')).reverse) := by
            rw [behindAt, if_pos (not_not.mp account)]
          rw [domainIssuer, behind] at allowed
          rw [accountBased, behind]
          refine (follows_webfinger (.account behind allowed)).bind fun events' resolved _ _ => ?_
          cases resolved with
          | none => exact .pure (resolves_refused ..)
          | some resolved => exact .pure fun none => by cases none

/-- What is done for an allowed issuer is let by the guard. -/
theorem guard_of_policy {issuer : String} (allowed : issuerAllowed setup issuer = true)
    (events : History Answer) (op : Op)
    (policy : Metadata.Policy setup.settings issuer (csrfCheck request) events op) :
    Guard setup request events op := .inr ⟨issuer, allowed, policy⟩

theorem follows_responseAuthenticate (issuer targetLinkUri : String)
    (loginHint authRequestParams pathScopes : Option String)
    (target : targetLinkUriValidate setup.runtime setup.config
      (parameterGet request.args "target_link_uri") = .ok targetLinkUri)
    (forged : csrfCheck request = false → authRequestParams = none ∧ pathScopes = none) :
    (responseAuthenticate setup request.args issuer targetLinkUri loginHint authRequestParams
      pathScopes (csrfCheck request)).Follows (Guard setup request)
      (fun later outcome => Right setup request later outcome) events := by
  refine .ite (fun _ => .pure trivial) fun allowed => ?_
  have allowed : issuerAllowed setup (stripSlash issuer) = true :=
    Bool.eq_true_of_not_eq_false allowed
  have more : ∀ events op,
      Metadata.Policy setup.settings (stripSlash issuer) (csrfCheck request) events op →
        Guard setup request events op :=
    guard_of_policy allowed
  refine .ite (fun _ => ?_) fun _ => ?_
  · exact (Metadata.follows_providerGet.relax more).bind fun _ _ _ _ => .pure trivial
  · refine (Metadata.follows_metadataGet.relax more).bind fun later provider _ got => ?_
    cases provider with
    | none => exact .pure trivial
    | some provider =>
        have selected : Selected setup later provider :=
          ⟨stripSlash issuer, allowed, got provider rfl⟩
        exact .ite (fun _ => .pure selected) fun _ => .pure ⟨target, forged, selected⟩

theorem right_responseStatic (single : setup.multiple = false) (issuer : Option String)
    {targetLinkUri : String} (loginHint authRequestParams pathScopes : Option String)
    (target : targetLinkUriValidate setup.runtime setup.config
      (parameterGet request.args "target_link_uri") = .ok targetLinkUri)
    (forged : csrfCheck request = false → authRequestParams = none ∧ pathScopes = none) :
    Right setup request events
      (responseStatic setup issuer targetLinkUri loginHint authRequestParams pathScopes) := by
  unfold responseStatic
  split
  · split
    · exact ⟨target, forged, single⟩
    · exact trivial
  · exact ⟨target, forged, single⟩

theorem follows_respond {targetLinkUri : String}
    (target : targetLinkUriValidate setup.runtime setup.config
      (parameterGet request.args "target_link_uri") = .ok targetLinkUri) :
    (respond setup request targetLinkUri).Follows (Guard setup request)
      (fun later outcome => Right setup request later outcome) events := by
  have forged (forged : csrfCheck request = false) :
      privileged request "auth_request_params" = none ∧ privileged request "scopes" = none :=
    ⟨privileged_none forged, privileged_none forged⟩
  refine .ite (fun single => .pure (right_responseStatic single _ _ _ _ target forged))
    fun _ => ?_
  refine (follows_resolveIssuer _ _ _).bind fun later resolved _ resolves => ?_
  cases resolved with
  | error outcome =>
      obtain ⟨refusal, rfl⟩ := resolves
      exact .pure trivial
  | ok pair =>
      obtain ⟨issuer, loginHint⟩ := pair
      cases issuer with
      | some issuer => exact follows_responseAuthenticate issuer _ _ _ _ target forged
      | none =>
          obtain ⟨user, issuer⟩ := resolves rfl
          refine .pure ?_
          rw [Option.map_eq_none_iff] at user issuer
          rw [Right, isDiscoveryResponse, Util.hasParameter_eq _ (by decide),
            Util.hasParameter_eq _ (by decide), user, issuer]
          rfl

end Guarded

/-! ## Sign-on by somebody else -/

/-- Issuers have to be on the list. -/
def sampleSetup : Setup where
  runtime := sampleRuntime
  config := sampleConfig
  settings := Metadata.sampleSettings
  multiple := true
  issuersAllowed := some ["https://op"]
  firstMatch := fun text pattern => text = pattern
  authority := fun _ => (none, none)
  staticProvider := none
  configuredIssuer := none

/-- A request for a page, without a token. -/
def sampleRequest : Request where
  args := some ("iss=https%3A%2F%2Fop&target_link_uri=https://www.example.com/app/x/../page" ++
    "&scopes=all")
  cookies := none

/-- What is read on the way. -/
def sampleEvents : History Answer :=
  [⟨.read (Metadata.providerFilePath "/metadata" "https://op"), some Metadata.sampleText⟩,
    ⟨.stat (Metadata.confPath "/metadata" "https://op"), none⟩,
    ⟨.read (Metadata.clientFilePath "/metadata" "https://op"), some "\x7b\"client_id\":\"rp\"\x7d"⟩]

theorem sample_respond : respond sampleSetup sampleRequest pageTarget =
    responseAuthenticate sampleSetup sampleRequest.args "https://op" pageTarget none none none
      false := by
  obtain ⟨issuer, user, hint, trimmed⟩ :
      parameterGet sampleRequest.args "iss" = some "https://op" ∧
      parameterGet sampleRequest.args "disc_user" = none ∧
      parameterGet sampleRequest.args "login_hint" = none ∧
      inputTrim "https://op" = "https://op" := by
    decide +kernel
  have plain : '@' ∉ "https://op".toList := by decide
  rw [respond, issuer, user, hint, Option.map_some, trimmed]
  dsimp only [resolveIssuer, Option.map_none]
  rw [if_pos plain]
  rfl

theorem sample_run : (discoveryResponse sampleSetup sampleRequest).Run sampleEvents
    ⟨false, .authenticate (some ⟨some "https://op", none, none⟩) pageTarget none none none⟩ := by
  obtain ⟨target, accepted, config, jwks, stripped, allowed⟩ :
      parameterGet sampleRequest.args "target_link_uri" = some pageTarget ∧
      targetLinkUriValidate sampleSetup.runtime sampleSetup.config (some pageTarget) =
        .ok pageTarget ∧
      hasParameter sampleRequest.args "test-config" = false ∧
      hasParameter sampleRequest.args "test-jwks-uri" = false ∧
      stripSlash "https://op" = "https://op" ∧ issuerAllowed sampleSetup "https://op" = true := by
    decide +kernel
  rw [discoveryResponse, target, accepted]
  dsimp only
  rw [sample_respond, responseAuthenticate, stripped, allowed, if_neg (by decide), config, jwks,
    if_neg (by decide)]
  exact .perform _ (.perform _ (.perform _ (.done _)))

end Discovery

end Handle

end ModAuthOpenidc
