import ModAuthOpenidc.WebUrl
import ModAuthOpenidc.Text

/-!
# Redirects to a URL of the client

A number of endpoints redirect to a URL that they find in the request. `oidc_validate_redirect_url`
looks at a copy of it in which backslashes are replaced, through the eyes of `apr_uri_parse`, while
the browser gets the URL as it is. A `char` of the source is a character here.
-/

namespace ModAuthOpenidc

namespace Redirect

open WebUrl

/-! ## The library -/

/-- What the module uses of a parsed URL. -/
structure AprUri where
  hostname : Option String
  /-- `apr_uri_unparse`. -/
  unparsed : String

/-- The hostname of a text with an optional port. What stands between brackets need not be an
address. -/
inductive HostPort (hostname : List Char) : List Char → Prop
  | plain (noColon : ':' ∉ hostname) : HostPort hostname hostname
  | plainPort (port : List Char) (noColon : ':' ∉ hostname) :
      HostPort hostname (hostname ++ ':' :: port)
  | bracketed (last : Char) (closed : ']' ∈ hostname ++ [last]) :
      HostPort hostname ('[' :: (hostname ++ [last]))
  | bracketedPort (port : List Char) (first : ']' ∉ hostname) :
      HostPort hostname ('[' :: (hostname ++ ']' :: ':' :: port))

/-- A text without white space, in lower case. -/
def squeeze (text : List Char) : List Char := lower (text.filter fun c => !isSpace c)

/-- The functions of the portable runtime. -/
structure Apr where
  /-- `apr_uri_parse`. -/
  uriParse : String → Option AprUri
  /-- `apr_strnatcasecmp`. -/
  strnatcasecmp : String → String → Int
  /-- A hostname comes from an authority behind two slashes. -/
  hostname_split : ∀ url uri hostname, '\\' ∉ url.toList → uriParse url = some uri →
    uri.hostname = some hostname → ∃ front authority rest,
      Parts url.toList front authority rest ∧ HostPort hostname.toList (hostAndPort authority)
  /-- The natural order of texts overlooks white space. -/
  squeeze_of_zero : ∀ a b, strnatcasecmp a b = 0 → squeeze a.toList = squeeze b.toList

/-! ## The check -/

/-- `oidc_redirect_url_scope_t`. -/
inductive RedirectUrlScope
  | anyHost
  | sameHost
  deriving DecidableEq

/-- The out parameters of a failure. -/
structure Failure where
  errStr : String
  errDesc : String
  deriving DecidableEq

/-- `OIDC_MAX_URL_LENGTH`. -/
def maxUrlLength : Nat := 8192 * 2

/-- `_oidc_strstr`, as a test. -/
def strstr (text needle : String) : Bool := needle.toList <:+: text.toList

/-- `oidc_util_strcasestr`, as a test. -/
def strcasestr (text needle : String) : Bool := lower needle.toList <:+: lower text.toList

/-- `_oidc_strstr(text, front) == text`. -/
def startsWith (text front : String) : Bool := front.toList <+: text.toList

/-- `oidc_validate_redirect_url_fail`. -/
def validateRedirectUrlFail (str desc : String) : Except Failure Unit :=
    .error { errStr := str, errDesc := desc }

/-- `oidc_validate_redirect_url_allowed`, for a test of regular expressions. -/
def validateRedirectUrlAllowed (firstMatch : String → String → Bool) (allowed : List String)
    (url : String) : Except Failure Unit :=
  if allowed.any fun pattern => firstMatch url pattern then .ok ()
  else validateRedirectUrlFail "URL not allowed"
    ("value does not match the list of allowed redirect URLs: " ++ url)

/-- The hostname as `oidc_util_url_cur_host` writes it. -/
def ipv6Aware (hostname : String) : String :=
  if ':' ∈ hostname.toList then "[" ++ hostname ++ "]" else hostname

/-- `oidc_validate_redirect_url_host`. -/
def validateRedirectUrlHost (apr : Apr) (curHost : String) (uri : AprUri) (hostname : String) :
    Except Failure Unit :=
  if apr.strnatcasecmp curHost (ipv6Aware hostname) = 0 then .ok ()
  else validateRedirectUrlFail "Invalid Request" ("URL value \"" ++ uri.unparsed ++
    "\" does not match the hostname of the current request \"" ++ curHost ++ "\"")

/-- `oidc_validate_redirect_url_relative`. -/
def validateRedirectUrlRelative (url : String) : Except Failure Unit :=
  if ¬startsWith url "/" then
    validateRedirectUrlFail "Malformed URL"
      ("No hostname was parsed and it does not seem to be relative, i.e starting with '/': " ++ url)
  else if startsWith url "//" then
    validateRedirectUrlFail "Malformed URL"
        ("No hostname was parsed and starting with '//': " ++ url)
  else if startsWith url "/\\" then
    validateRedirectUrlFail "Malformed URL"
        ("No hostname was parsed and starting with '/\\': " ++ url)
  else .ok ()

/-- `_oidc_redirect_url_illegal_substrings`, with the bytes of the look-alike characters. -/
def redirectUrlIllegalSubstrings : List (String × Bool) :=
  [("/%09", false), ("/%2f", true), ("/\t", false), ("/%68", false),
    ("/http:", true), ("/https:", true), ("/javascript:", true), ("%01javascript:", true),
    ("/\u00e3\u0080\u00b1", false), ("/\u00e3\u0080\u00b5", false), ("/\u00e3\u0082\u009d", false),
    ("/\u00e3\u0083\u00bc", false), ("/\u00ef\u00bd\u00b0", false), ("/<", false), ("/%5c", false),
    ("/\\", false)]

/-- `oidc_validate_redirect_url_chars`. -/
def validateRedirectUrlChars (url : String) : Except Failure Unit :=
  if strstr url "\n" ∨ strstr url "\r" then
    validateRedirectUrlFail "Invalid URL"
      ("URL value \"" ++ url ++ "\" contains illegal \"\n\" or \"\r\" character(s)")
  else if redirectUrlIllegalSubstrings.any fun (needle, caseInsensitive) =>
      if caseInsensitive then strcasestr url needle else strstr url needle then
    validateRedirectUrlFail "Invalid URL"
        ("URL value \"" ++ url ++ "\" contains illegal character(s)")
  else .ok ()

/-- The settings of the check: `OIDCRedirectURLsAllowed`, and how its expressions are tested. -/
structure Settings where
  redirectUrlsAllowed : Option (List String)
  firstMatch : String → String → Bool

/-- The copy of the URL with forward slashes. -/
def forwardSlashes (url : String) : String :=
  String.ofList (url.toList.map fun c => if c = '\\' then '/' else c)

/-- The check of the hostname, or of the whole URL if there is a list to check it against. -/
def validateRedirectUrlTarget (apr : Apr) (settings : Settings)
    (curHost url : String) (uri : AprUri)
    (scope : RedirectUrlScope) : Except Failure Unit :=
  match settings.redirectUrlsAllowed, uri.hostname with
  | some allowed, _ => validateRedirectUrlAllowed settings.firstMatch allowed url
  | none, some hostname =>
      if scope = .sameHost then validateRedirectUrlHost apr curHost uri hostname else .ok ()
  | none, none => .ok ()

/-- `oidc_validate_redirect_url`. -/
def validateRedirectUrl (apr : Apr) (settings : Settings) (curHost : String)
    (redirectToUrl : Option String) (scope : RedirectUrlScope) : Except Failure Unit :=
  match redirectToUrl with
  | none => validateRedirectUrlFail "Invalid URL" "URL value is NULL"
  | some redirectToUrl =>
      if maxUrlLength < redirectToUrl.length then
        validateRedirectUrlFail "URL too long"
          ("URL value exceeds the maximum length of " ++ maxUrlLength.repr ++ " bytes")
      else
        let url := forwardSlashes redirectToUrl
        match apr.uriParse url with
        | none => validateRedirectUrlFail "Malformed URL" ("not a valid URL value: " ++ url)
        | some uri => do
            validateRedirectUrlTarget apr settings curHost url uri scope
            if uri.hostname.isNone then validateRedirectUrlRelative url
            validateRedirectUrlChars url

/-! ## The host that the browser sees -/

section Hosts

variable {parser : HostParser} {base : List Char}

theorem isControl_of_isSpace {c : Char} (space : isSpace c = true) : isControl c = true := by
  simp only [isSpace, Bool.or_eq_true, decide_eq_true_eq] at space
  rcases space with ((((rfl | rfl) | rfl) | rfl) | rfl) | rfl <;> decide

theorem visible_squeeze (text : List Char) : visible (squeeze text) = lower (visible text) := by
  rw [squeeze, ← lower_visible, visible_filter]
  intro c space
  exact isControl_of_isSpace (by simpa using space)

/-- What the comparison of hosts says about the current host. -/
theorem lower_curHost (current : parser.parse curHost = some base)
    (same : squeeze hostname = squeeze curHost) : lower (visible hostname) = lower curHost := by
  have visibly := congrArg visible same
  rwa [visible_squeeze, visible_squeeze, visible_of_parse current] at visibly

/-! ## The host of the authority -/

theorem ipv6Aware_of_mem {hostname : String} (colon : ':' ∈ hostname.toList) :
    (ipv6Aware hostname).toList = '[' :: (hostname.toList ++ [']']) := by
  rw [ipv6Aware, if_pos colon, String.toList_append, String.toList_append]
  rfl

theorem ipv6Aware_of_notMem {hostname : String} (noColon : ':' ∉ hostname.toList) :
    ipv6Aware hostname = hostname := if_neg noColon

/-- The comparison of hosts rules out brackets inside a hostname. -/
theorem notMem_bracket {curHost : List Char} (current : parser.parse curHost = some base)
    {hostname : String} (same : squeeze (ipv6Aware hostname).toList = squeeze curHost) :
    ']' ∉ hostname.toList ∧ (':' ∉ hostname.toList → '[' ∉ hostname.toList) := by
  have valid : (parser.parse (lower (visible (ipv6Aware hostname).toList))).isSome = true := by
    rw [lower_curHost current same, parser.parse_lower, current]
    rfl
  by_cases colon : ':' ∈ hostname.toList
  · refine ⟨fun closing => ?_, fun noColon => absurd colon noColon⟩
    rw [ipv6Aware_of_mem colon, lower_visible_bracketed] at valid
    obtain ⟨inner, split, -, -, noClose⟩ := parser.parse_bracket _ (.inl List.mem_cons_self) valid
    rw [List.cons_append, List.cons.injEq, List.append_cancel_right_eq] at split
    exact noClose (split.2 ▸ mem_lower_visible (by decide) (by decide) closing)
  · rw [ipv6Aware_of_notMem colon] at valid
    have none_inside : ∀ c, (c = '[' ∨ c = ']') → c ∉ hostname.toList := by
      intro c bracket member
      have shown : c ∈ lower (visible hostname.toList) := by
        rcases bracket with rfl | rfl <;> exact mem_lower_visible (by decide) (by decide) member
      have either : '[' ∈ lower (visible hostname.toList) ∨
        ']' ∈ lower (visible hostname.toList) := by
        rcases bracket with rfl | rfl
        · exact .inl shown
        · exact .inr shown
      obtain ⟨inner, split, inside, -, -⟩ := parser.parse_bracket _ either valid
      have colons : ':' ∈ lower (visible hostname.toList) := by
        rw [split]
        exact List.mem_append_left _ (List.mem_cons_of_mem _ inside)
      exact colon (List.mem_of_mem_filter (mem_of_mem_lower (by decide) colons))
    exact ⟨none_inside _ (.inr rfl), fun _ => none_inside _ (.inl rfl)⟩

/-- A hostname without a colon is compared as it is. -/
theorem host_of_plain {curHost : List Char} (current : parser.parse curHost = some base)
    {hostname : String} (same : squeeze (ipv6Aware hostname).toList = squeeze curHost)
    (noColon : ':' ∉ hostname.toList) {text found : List Char}
    (shown : visible text = visible hostname.toList) (valid : parser.parse text = some found) :
    found = base := by
  apply host_eq current valid
  rw [← visible_of_parse valid, shown, ← ipv6Aware_of_notMem noColon]
  exact lower_curHost current same

/-- A hostname between brackets is compared with its brackets. -/
theorem host_of_bracketed {curHost : List Char} (current : parser.parse curHost = some base)
    {hostname : String} (same : squeeze (ipv6Aware hostname).toList = squeeze curHost)
    {text found : List Char} (subset : text ⊆ hostname.toList)
    (shown : visible text = visible hostname.toList)
    (valid : parser.parse ('[' :: (text ++ [']'])) = some found) : found = base := by
  obtain ⟨inner, split, inside, -, -⟩ :=
    parser.parse_bracket _ (.inl List.mem_cons_self) (Option.isSome_iff_exists.mpr ⟨_, valid⟩)
  rw [List.cons_append, List.cons.injEq, List.append_cancel_right_eq] at split
  have colon : ':' ∈ hostname.toList := subset (split.2 ▸ inside)
  apply host_eq current valid
  rw [← visible_of_parse valid, lower_visible_bracketed, shown, ← lower_visible_bracketed,
    ← ipv6Aware_of_mem colon]
  exact lower_curHost current same

/-- The text of an authority behind its user leads to the host that was compared. -/
theorem host_of_stripped {curHost : List Char} (current : parser.parse curHost = some base)
    {hostname : String} (same : squeeze (ipv6Aware hostname).toList = squeeze curHost)
    {text left : List Char} (hostPort : HostPort hostname.toList text)
    (stripped : Stripped text left)
    {found : List Char} (valid : parser.parse (splitPort false left).1 = some found) :
    found = base := by
  obtain ⟨noClose, noOpen⟩ := notMem_bracket current same
  have shown : visible (hostname.toList.filter fun c => !isTabOrNewline c) =
    visible hostname.toList :=
    visible_filter (fun c line => isControl_of_isTabOrNewline (by simpa using line)) _
  have subset : (hostname.toList.filter fun c => !isTabOrNewline c) ⊆ hostname.toList :=
    fun c member => List.mem_of_mem_filter member
  have colon : isControl ':' = false := by decide
  have closing : isControl ']' = false := by decide
  have opens : ∀ back : List Char,
      ('[' :: hostname.toList).filter (fun c => !isTabOrNewline c) ++ ']' :: back =
        '[' :: ((hostname.toList.filter fun c => !isTabOrNewline c) ++ ']' :: back) := fun _ => rfl
  have inside : ∀ back, (splitPort false
      ('[' :: ((hostname.toList.filter fun c => !isTabOrNewline c) ++ ']' :: back))).1 =
        '[' :: ((hostname.toList.filter fun c => !isTabOrNewline c) ++ ']' ::
            (splitPort false back).1) := by
    intro back
    rw [splitPort, if_neg (by decide), if_pos rfl]
    dsimp only
    rw [splitPort_inside fun member => noClose (subset member)]
  cases hostPort with
  | plain noColon =>
      rw [splitPort_of_notMem fun member => noColon (stripped.subset member)] at valid
      exact host_of_plain current same noColon stripped.visible valid
  | plainPort port noColon =>
      obtain ⟨left', -, rfl⟩ := stripped.append colon
      rw [splitPort_append (fun member => noColon (subset member))
        fun member => noOpen noColon (subset member)] at valid
      exact host_of_plain current same noColon shown valid
  | bracketed last closed =>
      have close : last = ']' := by
        rcases List.mem_append.mp closed with member | member
        · exact absurd member noClose
        · exact (List.mem_singleton.mp member).symm
      subst close
      rw [← List.cons_append] at stripped
      obtain ⟨left', behind, rfl⟩ := stripped.append closing
      have nothing : left' = [] := List.eq_nil_of_subset_nil behind.subset
      rw [opens, inside, nothing] at valid
      exact host_of_bracketed current same subset shown valid
  | bracketedPort port first =>
      rw [← List.cons_append] at stripped
      obtain ⟨left', behind, rfl⟩ := stripped.append closing
      obtain ⟨left'', -, rfl⟩ := @Stripped.append [] _ _ _ colon behind
      rw [opens, inside] at valid
      exact host_of_bracketed current same subset shown valid

/-- A hostname that is compared with a valid host has something to show. -/
theorem exists_plain {curHost : List Char} (current : parser.parse curHost = some base)
    {hostname : String} (same : squeeze (ipv6Aware hostname).toList = squeeze curHost) :
    ∃ c ∈ hostname.toList, isControl c = false := by
  by_cases colon : ':' ∈ hostname.toList
  · exact ⟨':', colon, by decide⟩
  · have lowered := lower_curHost current same
    rw [ipv6Aware_of_notMem colon] at lowered
    cases shown : visible hostname.toList with
    | nil =>
        rw [shown] at lowered
        have nothing : curHost = [] := List.map_eq_nil_iff.mp lowered.symm
        rw [nothing, parser.parse_nil] at current
        cases current
    | cons c others =>
        have member : c ∈ visible hostname.toList := shown ▸ List.mem_cons_self
        exact ⟨c, List.mem_of_mem_filter member, by simpa using (List.mem_filter.mp member).2⟩

theorem HostPort.subset {hostname text : List Char} (hostPort : HostPort hostname text) :
    hostname ⊆ text := by
  intro c member
  cases hostPort with
  | plain _ => exact member
  | plainPort port _ => exact List.mem_append_left _ member
  | bracketed last _ => exact List.mem_cons_of_mem _ (List.mem_append_left _ member)
  | bracketedPort port _ => exact List.mem_cons_of_mem _ (List.mem_append_left _ member)

end Hosts

/-! ## What is accepted -/

section Accepted

variable {apr : Apr} {firstMatch : String → String → Bool} {curHost url : String}

theorem toList_forwardSlashes (url : String) :
    (forwardSlashes url).toList = url.toList.map toSlash :=
  String.toList_ofList

theorem notMem_forwardSlashes (url : String) : '\\' ∉ (forwardSlashes url).toList := by
  rw [toList_forwardSlashes, List.mem_map]
  rintro ⟨c, -, turned⟩
  unfold toSlash at turned
  split at turned
  · cases turned
  · next other => exact other turned

theorem ok_of_bind {first second : Except Failure Unit}
    (passed : (first >>= fun _ => second) = .ok ()) : first = .ok () ∧ second = .ok () := by
  cases first with
  | error failure => cases passed
  | ok _ => exact ⟨rfl, passed⟩

theorem strnatcasecmp_of_host {uri : AprUri} {hostname : String}
    (passed : validateRedirectUrlHost apr curHost uri hostname = .ok ()) :
    apr.strnatcasecmp curHost (ipv6Aware hostname) = 0 := by
  unfold validateRedirectUrlHost at passed
  split at passed
  · assumption
  · cases passed

/-- What is checked of a URL without a list of those allowed. -/
theorem accepted_cases
    (accepted : validateRedirectUrl apr ⟨none, firstMatch⟩ curHost (some url) .sameHost = .ok ()) :
    ∃ uri, apr.uriParse (forwardSlashes url) = some uri ∧
      (∀ hostname, uri.hostname = some hostname →
        apr.strnatcasecmp curHost (ipv6Aware hostname) = 0) ∧
      (uri.hostname = none → validateRedirectUrlRelative (forwardSlashes url) = .ok ()) ∧
      validateRedirectUrlChars (forwardSlashes url) = .ok () := by
  rw [validateRedirectUrl] at accepted
  dsimp only at accepted
  split at accepted
  · cases accepted
  · split at accepted
    · cases accepted
    · next uri parsed =>
        refine ⟨uri, parsed, ?_⟩
        obtain ⟨target, others⟩ := ok_of_bind accepted
        cases named : uri.hostname with
        | none =>
            have absent : (none : Option String).isNone = true := rfl
            rw [named, if_pos absent] at others
            obtain ⟨relative, chars⟩ := ok_of_bind others
            exact ⟨nofun, fun _ => relative, chars⟩
        | some hostname =>
            rw [named, if_neg (by simp)] at others
            rw [validateRedirectUrlTarget, named] at target
            dsimp only at target
            rw [if_pos rfl] at target
            refine ⟨fun _ same => ?_, nofun, others⟩
            cases same
            exact strnatcasecmp_of_host target

/-- What the checks of characters rule out. -/
theorem chars_clean {text : String} (passed : validateRedirectUrlChars text = .ok ()) :
    '\n' ∉ text.toList ∧ '\r' ∉ text.toList ∧ ¬['/', '\t'] <:+: text.toList := by
  have single : ∀ {c : Char}, c ∈ text.toList → [c] <:+: text.toList :=
    fun member => (List.singleton_infix_iff _ _).mpr member
  unfold validateRedirectUrlChars at passed
  split at passed
  · cases passed
  · next lines =>
      split at passed
      · cases passed
      · next needles =>
          rw [not_or] at lines
          refine ⟨fun member => lines.1 ?_, fun member => lines.2 ?_, fun inside => needles ?_⟩
          · exact decide_eq_true (single member)
          · exact decide_eq_true (single member)
          · exact List.any_eq_true.mpr ⟨("/\t", false), by simp [redirectUrlIllegalSubstrings],
              decide_eq_true inside⟩

/-- What follows the slash of a relative URL is no slash and nothing that is removed. -/
theorem relative_path {text : String} (slashes : '\\' ∉ text.toList)
    (passed : validateRedirectUrlRelative text = .ok ())
    (chars : validateRedirectUrlChars text = .ok ()) :
    ∃ path, text.toList = '/' :: path ∧
      ∀ c ∈ path.head?, isSlash c = false ∧ isTabOrNewline c = false := by
  obtain ⟨noLine, noReturn, noTab⟩ := chars_clean chars
  unfold validateRedirectUrlRelative at passed
  split at passed
  · cases passed
  · next first =>
      split at passed
      · cases passed
      · next double =>
          obtain ⟨path, split⟩ : ['/'] <+: text.toList := of_decide_eq_true (not_not.mp first)
          rw [List.singleton_append] at split
          rw [← split] at slashes noLine noReturn noTab
          refine ⟨path, split.symm, fun c second => ?_⟩
          cases path with
          | nil => cases second
          | cons d others =>
              cases second
              have notSlash : c ≠ '/' := by
                rintro rfl
                exact double (decide_eq_true ⟨others, split⟩)
              have notTab : c ≠ '\t' := by
                rintro rfl
                exact noTab ⟨[], others, rfl⟩
              simp only [List.mem_cons, not_or] at slashes noLine noReturn
              simp only [isSlash, isTabOrNewline, Bool.or_eq_false_iff, decide_eq_false_iff_not]
              exact ⟨⟨notSlash, fun same => slashes.2.1 same.symm⟩,
                ⟨⟨notTab, fun same => noLine.2.1 same.symm⟩, fun same => noReturn.2.1 same.symm⟩⟩

/-- An accepted URL leads a browser to the current host exactly if it names no scheme other than
those of the web. -/
theorem accepted_stays_iff (parser : HostParser) (base : List Char)
    (current : parser.parse curHost.toList = some base)
    (accepted : validateRedirectUrl apr ⟨none, firstMatch⟩ curHost (some url) .sameHost = .ok ()) :
    (∀ target, resolve parser base url.toList = some target → target.Stays base) ↔
        Web url.toList := by
  refine ⟨web_of_stays, fun web target resolved => ?_⟩
  obtain ⟨uri, parsed, host, relative, chars⟩ := accepted_cases accepted
  rw [← resolve_toSlash, ← toList_forwardSlashes] at resolved
  rw [← web_toSlash, ← toList_forwardSlashes] at web
  cases named : uri.hostname with
  | none =>
      obtain ⟨path, split, second⟩ :=
        relative_path (notMem_forwardSlashes url) (relative named) chars
      rw [split, resolve_path path second] at resolved
      exact ⟨https, .inl rfl, (Option.some.inj resolved).symm⟩
  | some hostname =>
      have same := (apr.squeeze_of_zero _ _ (host hostname named)).symm
      obtain ⟨front, authority, rest, parts, hostPort⟩ :=
        apr.hostname_split _ _ _ (notMem_forwardSlashes url) parsed named
      obtain ⟨c, member, plain⟩ := exists_plain current same
      exact stays_of_parts parts ⟨c, hostPort.subset member, plain⟩
        (fun _ _ stripped valid =>
            host_of_stripped current same hostPort stripped valid) web resolved

end Accepted

/-! ## An accepted script -/

/-- A host parser for names. -/
def nameParse (text : List Char) : Option (List Char) :=
  if text = [] ∨ '[' ∈ text ∨ ']' ∈ text ∨ text.any isControl = true then none
      else some (lower text)

theorem mem_lower_iff {c : Char} (sign : c.toNat < 97) (same : c.toLower = c) (text : List Char) :
    c ∈ lower text ↔ c ∈ text :=
  ⟨mem_of_mem_lower sign, mem_lower same⟩

theorem lower_lower (text : List Char) : lower (lower text) = lower text := by
  rw [lower, lower, List.map_map]
  refine List.map_congr_left fun c _ => ?_
  rcases toLower_cases c with same | ⟨low, high, shifted⟩
  · rw [Function.comp_apply, same, same]
  · rcases toLower_cases c.toLower with same | ⟨low', high', shifted'⟩
    · rw [Function.comp_apply, same]
    · omega

theorem nameParse_lower (text : List Char) : nameParse (lower text) = nameParse text := by
  have controls : (lower text).any isControl = text.any isControl := by
    rw [lower, List.any_map]
    exact congrArg text.any (funext isControl_toLower)
  have empty : lower text = [] ↔ text = [] := List.map_eq_nil_iff
  simp only [nameParse, controls, empty, lower_lower,
    mem_lower_iff (c := '[') (by decide) (by decide),
        mem_lower_iff (c := ']') (by decide) (by decide)]

theorem nameParse_control (text : List Char) (control : ∃ c ∈ text, isControl c = true) :
    nameParse text = none :=
  if_pos (.inr (.inr (.inr (List.any_eq_true.mpr control))))

theorem nameParse_bracket (text : List Char) (bracket : '[' ∈ text ∨ ']' ∈ text)
    (valid : (nameParse text).isSome = true) :
    ∃ inner, text = '[' :: inner ++ [']'] ∧ ':' ∈ inner ∧ '[' ∉ inner ∧ ']' ∉ inner := by
  have rejected : nameParse text = none := by
    refine if_pos (.inr ?_)
    rcases bracket with opens | closes
    · exact .inl opens
    · exact .inr (.inl closes)
  rw [rejected] at valid
  cases valid

/-- A browser that knows hosts with names. -/
def nameParser : HostParser where
  parse := nameParse
  parse_lower := nameParse_lower
  parse_nil := rfl
  parse_control := nameParse_control
  parse_bracket := nameParse_bracket

/-- A script behind the name of a host. -/
def scriptUrl : String := "javascript://www.example.com?%a0alert%281%29"

/-- A page. -/
def pageUrl : String := "https://www.example.com/page"

/-- `apr_uri_parse`, of two URLs. -/
def sampleUriParse (url : String) : Option AprUri :=
  if url = scriptUrl ∨ url = pageUrl then some
      { hostname := some "www.example.com", unparsed := url }
  else none

/-- Natural order as far as it is used here. -/
def sampleStrnatcasecmp (a b : String) : Int :=
  if squeeze a.toList = squeeze b.toList then 0 else 1

theorem sampleUriParse_split (url : String) (uri : AprUri) (hostname : String)
    (_ : '\\' ∉ url.toList)
    (parsed : sampleUriParse url = some uri) (named : uri.hostname = some hostname) :
    ∃ front authority rest, Parts url.toList front authority rest ∧
      HostPort hostname.toList (hostAndPort authority) := by
  unfold sampleUriParse at parsed
  split at parsed
  · next known =>
      cases parsed
      cases named
      have host : HostPort "www.example.com".toList (hostAndPort "www.example.com".toList) :=
        .plain (by decide)
      have plain : ∀ c ∈ "www.example.com".toList, isDelimiter c = false := by
        simp [isDelimiter, isSlash]
      rcases known with rfl | rfl
      · exact ⟨"javascript:".toList, "www.example.com".toList, "?%a0alert%281%29".toList,
          ⟨by decide +kernel, .inr ⟨"javascript".toList, by decide +kernel⟩, plain,
            by simp [isDelimiter]⟩, host⟩
      · exact ⟨"https:".toList, "www.example.com".toList, "/page".toList,
          ⟨by decide +kernel, .inr ⟨"https".toList, by decide +kernel⟩, plain,
            by simp [isDelimiter, isSlash]⟩, host⟩
  · cases parsed

theorem squeeze_of_sampleStrnatcasecmp (a b : String) (same : sampleStrnatcasecmp a b = 0) :
    squeeze a.toList = squeeze b.toList := by
  unfold sampleStrnatcasecmp at same
  split at same
  · assumption
  · cases same

/-- A portable runtime for two URLs. -/
def sampleApr : Apr where
  uriParse := sampleUriParse
  strnatcasecmp := sampleStrnatcasecmp
  hostname_split := sampleUriParse_split
  squeeze_of_zero := squeeze_of_sampleStrnatcasecmp

/-- A page stays on its host. -/
theorem pageUrl_stays :
    validateRedirectUrl sampleApr ⟨none, fun _ _ => false⟩ "www.example.com"
        (some pageUrl) .sameHost =
        .ok () ∧
      ∀ target, resolve nameParser "www.example.com".toList pageUrl.toList = some target →
        target.Stays "www.example.com".toList := by
  have accepted : validateRedirectUrl sampleApr
    ⟨none, fun _ _ => false⟩ "www.example.com" (some pageUrl)
      .sameHost = .ok () := by
    decide +kernel
  have named : schemeOf (clean pageUrl.toList) = some (https, "//www.example.com/page".toList) := by
    decide +kernel
  refine ⟨accepted, (accepted_stays_iff nameParser _ (by decide +kernel) accepted).mpr
    fun scheme rest found => .inl ?_⟩
  rw [named] at found
  cases found
  rfl

/-- A script is accepted. -/
theorem scriptUrl_leaves :
    nameParser.parse "www.example.com".toList = some "www.example.com".toList ∧
      validateRedirectUrl sampleApr ⟨none, fun _ _ => false⟩ "www.example.com"
          (some scriptUrl) .sameHost =
        .ok () ∧
      ¬∀ target, resolve nameParser "www.example.com".toList scriptUrl.toList = some target →
        target.Stays "www.example.com".toList := by
  refine ⟨by decide +kernel, by decide +kernel, fun stays => ?_⟩
  have script : resolve nameParser "www.example.com".toList scriptUrl.toList =
      some (.other "javascript".toList) := by
    decide +kernel
  obtain ⟨scheme, -, page⟩ := stays _ script
  cases page

end Redirect

end ModAuthOpenidc
