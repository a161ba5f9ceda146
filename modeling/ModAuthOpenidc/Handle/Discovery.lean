import ModAuthOpenidc.PathSegments
import ModAuthOpenidc.Redirect

/-!
# The target of a discovery response

A discovery response names the page to go to after authentication. Two checks look at it, one
through the eyes of `apr_uri_parse` and one at a copy with other slashes, before the module
redirects there and expects the browser to send the session cookie. The path is compared with that
of the cookie as it stands, and not at all if there is none.
-/

namespace ModAuthOpenidc

namespace Handle

namespace Discovery

open PathSegments Redirect WebUrl

/-! ## The checks -/

/-- What `apr_uri_parse` leaves in an `apr_uri_t`, whether it succeeds or not. -/
structure UriFields where
  hostname : Option String
  path : Option String

/-- The functions of the portable runtime, with the fields of parsed URLs. -/
structure Runtime where
  apr : Apr
  fields : String → UriFields
  fields_of_parse : ∀ url uri, apr.uriParse url = some uri → (fields url).hostname = uri.hostname
  /-- A path behind a host begins with a slash. -/
  path_absolute : ∀ url hostname path, (fields url).hostname = some hostname →
    (fields url).path = some path → path.toList.head? = some '/'

/-- The configuration, and the host of the request. -/
structure Config where
  settings : Redirect.Settings
  curHost : String
  /-- `oidc_util_url_redirect_uri`. -/
  redirectUri : String
  cookieDomain : Option String := none
  /-- `oidc_cfg_dir_cookie_path_get`, which has a default. -/
  cookiePath : String := "/"
  /-- `oidc_cfg_default_sso_url_get` as an absolute URL. -/
  defaultSsoUrl : Option String := none

/-- What is sent instead of going on. -/
structure Refusal where
  error : String
  description : String
  status : Nat
  deriving DecidableEq

section Checks

variable (runtime : Runtime) (config : Config)

/-- `oidc_util_hostname_endswith`. -/
def hostnameEndswith (hostname suffix : String) : Bool :=
  if suffix.length = 0 ∨ hostname.length < suffix.length then false
  else
    let n := hostname.length - suffix.length
    if runtime.apr.strnatcasecmp (String.ofList (hostname.toList.drop n)) suffix ≠ 0 then false
    else n = 0 || (hostname.toList.take n).getLast? = some '.'

/-- A domain without a dot in front. -/
def withoutDot (domain : String) : String :=
  match domain.toList with
  | '.' :: rest => String.ofList rest
  | _ => domain

/-- `oidc_util_cookie_domain_valid`. -/
def cookieDomainValid (hostname cookieDomain : String) : Bool :=
  hostnameEndswith runtime hostname (withoutDot cookieDomain)

/-- The part of `oidc_discovery_target_link_uri_match` for the cookie path. Without a path the
search for the cookie path has the same result as the path, that is `NULL`. -/
def cookiePathMatch (cookiePath : List Char) (path : Option (List Char)) : Bool :=
  match path with
  | none => true
  | some path =>
      if strstr cookiePath path ≠ some path then false
      else if cookiePath.length < path.length then
        let n := cookiePath.length
        let n := if 0 < n ∧ cookiePath[n - 1]? = some '/' then n - 1 else n
        path[n]? = some '/'
      else true

/-- `oidc_discovery_target_link_uri_match`. -/
def targetLinkUriMatch (targetLinkUri : String) : Bool :=
  match (runtime.fields targetLinkUri).hostname with
  | none => false
  | some hostname =>
      (match config.cookieDomain with
        | none =>
            match (runtime.fields config.redirectUri).hostname with
            | none => false
            | some redirectHost => hostnameEndswith runtime hostname redirectHost
        | some domain => cookieDomainValid runtime hostname domain) &&
      cookiePathMatch config.cookiePath.toList
        ((runtime.fields targetLinkUri).path.map String.toList)

/-- `oidc_discovery_response_target_link_uri_validate`. -/
def targetLinkUriValidate (targetLinkUri : Option String) : Except Refusal String :=
  match targetLinkUri.or config.defaultSsoUrl with
  | none => .error
      { error := "Invalid Request"
        description := "SSO to this module without specifying a \"target_link_uri\" parameter " ++
          "is not possible because OIDCDefaultURL is not set."
        status := 500 }
  | some targetLinkUri =>
      if targetLinkUriMatch runtime config targetLinkUri then
        match validateRedirectUrl runtime.apr config.settings config.curHost
          (some targetLinkUri) .sameHost with
        | .ok _ => .ok targetLinkUri
        | .error failure => .error
            { error := failure.errStr, description := failure.errDesc, status := 401 }
      else .error
        { error := "Invalid Request"
          description := "\"target_link_uri\" parameter does not match configuration settings, " ++
            "aborting to prevent an open redirect."
          status := 401 }

end Checks

/-! ## Where the cookie is sent -/

/-- A hostname is the same in upper and lower case. -/
def SameHost (first second : String) : Prop := lower first.toList = lower second.toList

/-- A host is a domain, or its name ends with a dot and the domain. -/
def Within (hostname domain : String) : Prop :=
  ∃ front back, hostname.toList = front ++ back ∧
    lower back = lower (withoutDot domain).toList ∧ (front = [] ∨ front.getLast? = some '.')

/-- The browser sends the session cookie to a URL. -/
structure Reachable (runtime : Runtime) (config : Config) (uri : String) : Prop where
  host : ∃ hostname, (runtime.fields uri).hostname = some hostname ∧
    SameHost (ipv6Aware hostname) config.curHost ∧
    ∀ domain, config.cookieDomain = some domain → Within hostname domain
  path : Matches (removeDotSegments ((runtime.fields uri).path.getD "/").toList)
    config.cookiePath.toList

/-- The white space of a text, each at its place. -/
def blanks (text : List Char) : List (Option Char) :=
  text.map fun c => if isSpace c then some c else none

/-- The parts of a URL that are not looked at in the right way have no effect. -/
structure Followed (runtime : Runtime) (config : Config) (uri : String) : Prop where
  /-- The host is the same with other slashes, or it is the current host if there is none then. -/
  host : ∀ hostname, (runtime.fields uri).hostname = some hostname →
    squeeze (ipv6Aware hostname).toList =
      squeeze (((runtime.fields (forwardSlashes uri)).hostname.map ipv6Aware).getD
        config.curHost).toList
  /-- White space, which is overlooked in a host, is that of the current host and of the domain. -/
  blanks : ∀ hostname, (runtime.fields uri).hostname = some hostname →
    blanks (ipv6Aware hostname).toList = blanks config.curHost.toList ∧
      ∀ domain, config.cookieDomain = some domain →
        blanks (withoutDot domain).toList <:+ blanks hostname.toList
  /-- The path stays below the cookie path; without a path the cookie path is that of all pages. -/
  path : match (runtime.fields uri).path with
    | none => config.cookiePath = "" ∨ config.cookiePath = "/"
    | some path => Stays path.toList config.cookiePath.toList

/-! ## White space in hosts -/

theorem isSpace_toLower (c : Char) : isSpace c.toLower = isSpace c := by
  rcases toLower_cases c with same | ⟨least, greatest, shifted⟩
  · rw [same]
  · have letter : ∀ d : Char, 65 ≤ d.toNat → isSpace d = false := by
      intro d large
      by_contra space
      simp only [isSpace, Bool.not_eq_false, Bool.or_eq_true, decide_eq_true_iff] at space
      rcases space with ((((rfl | rfl) | rfl) | rfl) | rfl) | rfl <;> exact absurd large (by decide)
    rw [letter c least, letter c.toLower (by omega)]

theorem toLower_of_isSpace {c : Char} (space : isSpace c = true) : c.toLower = c := by
  simp only [isSpace, Bool.or_eq_true, decide_eq_true_iff] at space
  rcases space with ((((rfl | rfl) | rfl) | rfl) | rfl) | rfl <;> rfl

theorem squeeze_eq (text : List Char) :
    squeeze text = (lower text).filter fun c => !isSpace c := by
  rw [squeeze, lower, lower, List.filter_map]
  congr 1
  exact List.filter_congr fun c _ => by rw [Function.comp_apply, isSpace_toLower]

theorem blanks_lower (text : List Char) : blanks (lower text) = blanks text := by
  rw [lower, blanks, blanks, List.map_map]
  apply List.map_congr_left
  intro c _
  rw [Function.comp_apply, isSpace_toLower]
  split
  · next space => rw [toLower_of_isSpace space]
  · rfl

/-- Texts are the same in lower case if they are without white space, and have the same white space
at the same places. -/
theorem lower_eq_iff {first second : List Char} :
    lower first = lower second ↔ squeeze first = squeeze second ∧ blanks first = blanks second := by
  constructor
  · intro same
    rw [squeeze_eq, squeeze_eq, ← blanks_lower first, ← blanks_lower second, same]
    exact ⟨rfl, rfl⟩
  · rintro ⟨squeezed, spaces⟩
    induction first generalizing second with
    | nil => rw [List.map_eq_nil_iff.mp spaces.symm]
    | cons c first ih =>
        cases second with
        | nil => cases spaces
        | cons d second =>
            rw [blanks, blanks, List.map_cons, List.map_cons, List.cons.injEq] at spaces
            obtain ⟨here, behind⟩ := spaces
            rw [squeeze_eq, squeeze_eq, lower, lower, List.map_cons, List.map_cons,
              List.filter_cons, List.filter_cons, isSpace_toLower, isSpace_toLower] at squeezed
            rw [lower, lower, List.map_cons, List.map_cons]
            by_cases space : isSpace c = true
            · rw [if_pos space] at here
              split at here
              · cases here
                rw [space] at squeezed
                exact congrArg _ (ih (by rw [squeeze_eq, squeeze_eq]; exact squeezed) behind)
              · cases here
            · rw [if_neg space] at here
              split at here
              · cases here
              · next visible =>
                  rw [Bool.not_eq_true] at space visible
                  rw [space, visible] at squeezed
                  obtain ⟨head, tail⟩ := List.cons.inj squeezed
                  rw [head]
                  exact congrArg _ (ih (by rw [squeeze_eq, squeeze_eq]; exact tail) behind)

/-- A host is within a domain that it ends with as the source compares, if the white space of the
domain is that of the host. -/
theorem within_iff {hostname domain : String} {front back : List Char}
    (parts : hostname.toList = front ++ back)
    (length : back.length = (withoutDot domain).length)
    (same : squeeze back = squeeze (withoutDot domain).toList)
    (whole : front = [] ∨ front.getLast? = some '.') :
    Within hostname domain ↔ blanks (withoutDot domain).toList <:+ blanks hostname.toList := by
  rw [← String.length_toList] at length
  constructor
  · rintro ⟨front', back', parts', lowered, -⟩
    have split := List.append_inj' (parts.symm.trans parts')
      (length.trans (by simpa [lower] using (congrArg List.length lowered).symm))
    rw [parts, ← (lower_eq_iff.mp lowered).2, ← split.2, blanks, blanks, List.map_append]
    exact List.suffix_append _ _
  · intro spaces
    refine ⟨front, back, parts, lower_eq_iff.mpr ⟨same, ?_⟩, whole⟩
    have behind : blanks back <:+ blanks hostname.toList := by
      rw [parts, blanks, blanks, List.map_append]
      exact List.suffix_append _ _
    have lengths : (blanks back).length = (blanks (withoutDot domain).toList).length := by
      rw [blanks, blanks, List.length_map, List.length_map, length]
    exact (List.suffix_of_suffix_length_le behind spaces (by omega)).eq_of_length lengths

section Accepted

variable {runtime : Runtime} {config : Config} {uri : String}

/-- A cookie path that is found in a path matches it. -/
theorem matches_of_cookiePathMatch {cookiePath path : List Char}
    (passed : cookiePathMatch cookiePath (some path) = true) : Matches path cookiePath := by
  unfold cookiePathMatch at passed
  dsimp only at passed
  split at passed
  · cases passed
  · next found =>
      obtain ⟨rest, rfl⟩ := strstr_eq_self_iff.mp (not_not.mp found)
      split at passed
      · next longer =>
          refine .inr ⟨List.prefix_append _ _, ?_⟩
          rw [decide_eq_true_iff] at passed
          split at passed
          · next slash =>
              left
              rw [List.getLast?_eq_getElem?]
              exact slash.2
          · right
            rw [List.drop_left, List.head?_eq_getElem?]
            rwa [List.getElem?_append_right le_rfl, Nat.sub_self] at passed
      · next short =>
          left
          rw [List.length_append] at short
          have nothing : rest = [] := List.length_eq_zero_iff.mp (by omega)
          rw [nothing, List.append_nil]

/-- A host that is valid for a domain is within it up to white space. -/
theorem within_iff_of_cookieDomainValid {hostname domain : String}
    (passed : cookieDomainValid runtime hostname domain = true) :
    Within hostname domain ↔ blanks (withoutDot domain).toList <:+ blanks hostname.toList := by
  unfold cookieDomainValid hostnameEndswith at passed
  dsimp only at passed
  split at passed
  · cases passed
  · next fits =>
      split at passed
      · cases passed
      · next same =>
          refine within_iff (List.take_append_drop (hostname.length - (withoutDot domain).length)
            hostname.toList).symm ?_ ?_ ?_
          · rw [List.length_drop, String.length_toList]
            omega
          · have squeezed := runtime.apr.squeeze_of_zero _ _ (not_not.mp same)
            rwa [String.toList_ofList] at squeezed
          · rw [Bool.or_eq_true, decide_eq_true_iff, decide_eq_true_iff] at passed
            refine passed.imp_left fun whole => ?_
            rw [whole, List.take_zero]

/-- What both checks say about a target. -/
theorem accepted_spec (unrestricted : config.settings.redirectUrlsAllowed = none)
    {target : Option String} (accepted : targetLinkUriValidate runtime config target = .ok uri) :
    ∃ hostname, (runtime.fields uri).hostname = some hostname ∧
      (∀ domain, config.cookieDomain = some domain →
        (Within hostname domain ↔ blanks (withoutDot domain).toList <:+ blanks hostname.toList)) ∧
      cookiePathMatch config.cookiePath.toList ((runtime.fields uri).path.map String.toList) =
        true ∧
      ∀ other, (runtime.fields (forwardSlashes uri)).hostname = some other →
        squeeze config.curHost.toList = squeeze (ipv6Aware other).toList := by
  unfold targetLinkUriValidate at accepted
  split at accepted
  · cases accepted
  · next own =>
      split at accepted
      · next matched =>
          split at accepted
          · next valid =>
              cases accepted
              unfold targetLinkUriMatch at matched
              split at matched
              · cases matched
              · next hostname named =>
                  rw [Bool.and_eq_true] at matched
                  refine ⟨hostname, named, fun domain configured => ?_, matched.2,
                    fun other found => ?_⟩
                  · have domain_valid := matched.1
                    rw [configured] at domain_valid
                    exact within_iff_of_cookieDomainValid domain_valid
                  · obtain ⟨settings⟩ := config
                    obtain ⟨allowed, firstMatch⟩ := settings
                    cases unrestricted
                    obtain ⟨parsed, parse, host, -, -⟩ := accepted_cases valid
                    rw [runtime.fields_of_parse _ _ parse] at found
                    exact runtime.apr.squeeze_of_zero _ _ (host other found)
          · cases accepted
      · cases accepted

theorem matches_root_iff (cookie : List Char) :
    Matches (removeDotSegments "/".toList) cookie ↔ cookie = [] ∨ cookie = ['/'] := by
  have root : removeDotSegments "/".toList = ['/'] := by decide
  rw [root]
  constructor
  · rintro (same | ⟨front, -⟩)
    · exact .inr same.symm
    · rcases List.prefix_cons_iff.mp front with empty | ⟨rest, rfl, behind⟩
      · exact .inl empty
      · rw [List.prefix_nil.mp behind]
        exact .inr rfl
  · rintro (rfl | rfl)
    · exact .inr ⟨List.nil_prefix, .inr rfl⟩
    · exact .inl rfl

/-- The browser sends the session cookie to an accepted target if and only if neither backslashes,
white space, dot segments nor a missing path lead elsewhere. -/
theorem accepted_reachable_iff (unrestricted : config.settings.redirectUrlsAllowed = none)
    {target : Option String} (accepted : targetLinkUriValidate runtime config target = .ok uri) :
    Reachable runtime config uri ↔ Followed runtime config uri := by
  obtain ⟨hostname, named, domains, paths, hosts⟩ := accepted_spec unrestricted accepted
  have host_iff : squeeze (ipv6Aware hostname).toList = squeeze config.curHost.toList ↔
      squeeze (ipv6Aware hostname).toList =
        squeeze (((runtime.fields (forwardSlashes uri)).hostname.map ipv6Aware).getD
          config.curHost).toList := by
    cases found : (runtime.fields (forwardSlashes uri)).hostname with
    | none => exact Iff.rfl
    | some other => rw [Option.map_some, Option.getD_some, hosts other found]
  have path_iff : Matches (removeDotSegments ((runtime.fields uri).path.getD "/").toList)
      config.cookiePath.toList ↔
      match (runtime.fields uri).path with
      | none => config.cookiePath = "" ∨ config.cookiePath = "/"
      | some path => Stays path.toList config.cookiePath.toList := by
    cases found : (runtime.fields uri).path with
    | none =>
        rw [Option.getD_none, matches_root_iff, String.toList_eq_nil_iff]
        exact or_congr_right ⟨fun same => String.toList_inj.mp same, fun same => same ▸ rfl⟩
    | some path =>
        rw [found, Option.map_some] at paths
        have fits := matches_of_cookiePathMatch paths
        have absolute := runtime.path_absolute uri hostname path named found
        exact removeDotSegments_matches_iff absolute (absolute_of_matches absolute fits) fits
  constructor
  · rintro ⟨⟨other, own, same, within⟩, path⟩
    rw [named] at own
    cases own
    obtain ⟨squeezed, spaces⟩ := lower_eq_iff.mp same
    refine ⟨fun other own => ?_, fun other own => ?_, path_iff.mp path⟩
    · rw [named] at own
      cases own
      exact host_iff.mp squeezed
    · rw [named] at own
      cases own
      exact ⟨spaces, fun domain configured =>
        (domains domain configured).mp (within domain configured)⟩
  · rintro ⟨host, spaces, path⟩
    obtain ⟨own, domain_spaces⟩ := spaces hostname named
    exact ⟨⟨hostname, named, lower_eq_iff.mpr ⟨host_iff.mpr (host hostname named), own⟩,
      fun domain configured => (domains domain configured).mpr (domain_spaces domain configured)⟩,
      path_iff.mpr path⟩

end Accepted

/-! ## Two targets -/

/-- The end of a hostname. -/
def endsHost (c : Char) : Bool := c = '/' || c = '?' || c = '#'

/-- The hostname of a secure URL and what is behind it, if it is a name without a port. -/
def namedHost (url : String) : Option (List Char × List Char) :=
  let behind := url.toList.drop 8
  let host := behind.takeWhile fun c => !endsHost c
  if url.toList.take 8 = "https://".toList ∧ host.all isSchemeChar then
    some (host, behind.dropWhile fun c => !endsHost c)
  else none

theorem namedHost_spec {url : String} {host rest : List Char}
    (named : namedHost url = some (host, rest)) :
    url.toList = "https:".toList ++ '/' :: '/' :: (host ++ rest) ∧
      (∀ c ∈ host, isSchemeChar c = true) ∧ ∀ c ∈ rest.head?, endsHost c = true := by
  unfold namedHost at named
  dsimp only at named
  split at named
  · next known =>
      obtain ⟨scheme, names⟩ := known
      cases named
      refine ⟨?_, List.all_eq_true.mp names, fun c first => ?_⟩
      · rw [List.takeWhile_append_dropWhile]
        conv_lhs => rw [← List.take_append_drop 8 url.toList, scheme]
        rfl
      · have stopped := List.head?_dropWhile_not (fun c => !endsHost c) (url.toList.drop 8)
        rw [Option.mem_def.mp first] at stopped
        simpa using stopped
  · cases named

/-- `apr_uri_parse`, of secure URLs with a name for a host. -/
def sampleUriParse (url : String) : Option AprUri :=
  (namedHost url).map fun parsed => { hostname := some (String.ofList parsed.1), unparsed := url }

/-- The fields of such a URL. -/
def sampleFields (url : String) : UriFields :=
  match namedHost url with
  | none => { hostname := none, path := none }
  | some (host, rest) =>
      { hostname := some (String.ofList host)
        path := if rest.head? = some '/' then
            some (String.ofList (rest.takeWhile fun c => c ≠ '?' && c ≠ '#'))
          else none }

theorem sampleUriParse_split (url : String) (uri : AprUri) (hostname : String)
    (_ : '\\' ∉ url.toList) (parsed : sampleUriParse url = some uri)
    (found : uri.hostname = some hostname) :
    ∃ front authority rest, Parts url.toList front authority rest ∧
      HostPort hostname.toList (hostAndPort authority) := by
  obtain ⟨⟨host, rest⟩, named, rfl⟩ := Option.map_eq_some_iff.mp parsed
  cases found
  obtain ⟨whole, names, ends⟩ := namedHost_spec named
  have plain : ∀ c ∈ host, c ≠ ':' ∧ c ≠ '@' ∧ isDelimiter c = false := by
    intro c member
    have name := names c member
    refine ⟨?_, ?_, ?_⟩
    · rintro rfl
      cases name
    · rintro rfl
      cases name
    · by_contra delimiter
      rw [Bool.not_eq_false] at delimiter
      simp only [isDelimiter, isSlash, Bool.or_eq_true, decide_eq_true_iff]
        at delimiter
      rcases delimiter with ((rfl | rfl) | rfl) | rfl <;> cases name
  refine ⟨_, host, rest, ⟨whole, .inr ⟨"https".toList, by decide⟩, fun c member =>
    (plain c member).2.2, fun c first => ?_⟩, ?_⟩
  · have slash := ends c first
    simp only [endsHost, Bool.or_eq_true, decide_eq_true_iff] at slash
    rcases slash with (rfl | rfl) | rfl <;> rfl
  · have all : hostAndPort host = host := by
      rw [hostAndPort, List.rtakeWhile_eq_self_iff]
      intro c member
      exact decide_eq_true (plain c member).2.1
    rw [String.toList_ofList, all]
    exact .plain fun colon => (plain _ colon).1 rfl

theorem sampleFields_hostname (url : String) (uri : AprUri)
    (parsed : sampleUriParse url = some uri) :
    (sampleFields url).hostname = uri.hostname := by
  obtain ⟨⟨host, rest⟩, named, rfl⟩ := Option.map_eq_some_iff.mp parsed
  rw [sampleFields, named]

theorem sampleFields_path (url hostname path : String)
    (_ : (sampleFields url).hostname = some hostname)
    (found : (sampleFields url).path = some path) : path.toList.head? = some '/' := by
  unfold sampleFields at found
  split at found
  · cases found
  · next host rest named =>
      dsimp only at found
      split at found
      · next absolute =>
          cases found
          obtain ⟨tail, rfl⟩ := List.head?_eq_some_iff.mp absolute
          rw [String.toList_ofList]
          rfl
      · cases found

/-- A portable runtime for such URLs. -/
def sampleRuntime : Runtime where
  apr :=
    { uriParse := sampleUriParse
      strnatcasecmp := sampleStrnatcasecmp
      hostname_split := sampleUriParse_split
      squeeze_of_zero := squeeze_of_sampleStrnatcasecmp }
  fields := sampleFields
  fields_of_parse := sampleFields_hostname
  path_absolute := sampleFields_path

/-- An application below a path. -/
def sampleConfig : Config where
  settings := { redirectUrlsAllowed := none, firstMatch := fun _ _ => false }
  curHost := "www.example.com"
  redirectUri := "https://www.example.com/app/redirect_uri"
  cookiePath := "/app"

/-- A page of the application with a dot segment that stays within it. -/
def pageTarget : String := "https://www.example.com/app/x/../page"

/-- The host of the application, without a path. -/
def hostTarget : String := "https://www.example.com"

/-- The browser sends the session cookie to the page. -/
theorem pageTarget_reachable :
    targetLinkUriValidate sampleRuntime sampleConfig (some pageTarget) = .ok pageTarget ∧
      Reachable sampleRuntime sampleConfig pageTarget := by
  have accepted : targetLinkUriValidate sampleRuntime sampleConfig (some pageTarget) =
      .ok pageTarget := by
    decide +kernel
  have named : (sampleFields pageTarget).hostname = some "www.example.com" := by decide +kernel
  have copied : (sampleFields (forwardSlashes pageTarget)).hostname = some "www.example.com" := by
    decide +kernel
  have path : (sampleFields pageTarget).path = some "/app/x/../page" := by decide +kernel
  refine ⟨accepted, (accepted_reachable_iff rfl accepted).mpr ⟨fun hostname found => ?_,
    fun hostname found => ?_, ?_⟩⟩
  · change (sampleFields pageTarget).hostname = some hostname at found
    rw [named] at found
    cases found
    change _ = squeeze
      (((sampleFields (forwardSlashes pageTarget)).hostname.map ipv6Aware).getD _).toList
    rw [copied]
    rfl
  · change (sampleFields pageTarget).hostname = some hostname at found
    rw [named] at found
    cases found
    refine ⟨by decide +kernel, fun domain configured => ?_⟩
    cases configured
  · change match (sampleFields pageTarget).path with
      | none => sampleConfig.cookiePath = "" ∨ sampleConfig.cookiePath = "/"
      | some path => Stays path.toList sampleConfig.cookiePath.toList
    rw [path]
    exact ⟨by decide +kernel, by decide +kernel, by decide +kernel⟩

/-- A host without a path is accepted, and the browser does not send the session cookie to it. -/
theorem hostTarget_accepted :
    targetLinkUriValidate sampleRuntime sampleConfig (some hostTarget) = .ok hostTarget ∧
      ¬Reachable sampleRuntime sampleConfig hostTarget := by
  refine ⟨by decide +kernel, fun reachable => ?_⟩
  have elsewhere : ¬Matches (removeDotSegments ((sampleFields hostTarget).path.getD "/").toList)
      sampleConfig.cookiePath.toList := by
    decide +kernel
  exact elsewhere reachable.path

end Discovery

end Handle

end ModAuthOpenidc
