import ModAuthOpenidc.Base64Url
import ModAuthOpenidc.Handle.DiscoveryResponse
import ModAuthOpenidc.Http.Browser
import ModAuthOpenidc.Util.Html

/-!
# The discovery page

Without a provider to go to, the user is asked to choose one, on a page of the module or elsewhere.
The page has links for the known providers and a form for others, and all that the module has to
know when the choice comes in goes with them: where the user wants to go, what the path asks for,
and the token, which the browser also gets as a cookie. What comes back is what was put in, whatever
characters it is made of.
-/

namespace ModAuthOpenidc

namespace Handle

namespace Discovery

open Http (Jar NulFree getCookie setCookie urlDecode urlEncode)
open Util (hasParameter parameterGet parameterKey)

/-! ## The page -/

/-- What goes into the page. -/
structure Page where
  /-- `oidc_util_url_redirect_uri`. -/
  redirectUri : String
  redirectUri_bytes : NulFree redirectUri
  /-- It has neither a query nor a fragment. -/
  redirectUri_plain : '?' ∉ redirectUri.toList ∧ '#' ∉ redirectUri.toList
  /-- `oidc_util_url_cur`. -/
  currentUrl : String
  currentUrl_bytes : NulFree currentUrl
  /-- `oidc_original_request_method` for a request that is not a discovery response. -/
  method : String
  method_known : method = "get" ∨ method = "form_post"
  /-- The random bytes of the token. -/
  token : List UInt8
  token_ne : token ≠ []
  /-- `oidc_cfg_dir_path_scope_get`. -/
  pathScopes : Option String
  pathScopes_bytes : ∀ scopes ∈ pathScopes, NulFree scopes
  /-- `oidc_cfg_dir_path_auth_request_params_get`. -/
  pathAuthRequestParams : Option String
  pathAuthRequestParams_bytes : ∀ params ∈ pathAuthRequestParams, NulFree params

namespace Page

variable (page : Page)

/-- The token as a text, from `oidc_util_rand_str`. -/
def csrf : String := String.ofList (Base64Url.encode page.token)

/-- `oidc_util_html_escape`. -/
def escaped (text : String) : List Char := Util.Html.htmlEscape (some text.toList)

/-- One more parameter of a link, if it is there. -/
def withParameter (href : List Char) (ampersand name : String) : Option String → List Char
  | none => href
  | some value => href ++ ampersand.toList ++ name.toList ++ ['='] ++ (urlEncode value).toList

/-- The link of `oidc_discovery_page_providers` for an issuer. -/
def providerHref (issuer : String) : List Char :=
  let href := escaped page.redirectUri ++ "?iss=".toList ++ (urlEncode issuer).toList ++
    "&amp;target_link_uri=".toList ++ (urlEncode page.currentUrl).toList ++
    "&amp;method=".toList ++ page.method.toList ++ "&amp;x_csrf=".toList ++ page.csrf.toList
  let href := withParameter href "&amp;" "scopes" page.pathScopes
  withParameter href "&amp;" "auth_request_params" page.pathAuthRequestParams

/-- The hidden fields of `oidc_discovery_page_form`, with their values as they are written. -/
def formFields : List (String × List Char) :=
  [("target_link_uri", escaped page.currentUrl), ("method", escaped page.method),
    ("x_csrf", escaped page.csrf)] ++
  (page.pathScopes.toList.map fun scopes => ("scopes", escaped scopes)) ++
  page.pathAuthRequestParams.toList.map fun params => ("auth_request_params", escaped params)

/-- The address of another page, from `oidc_discovery_request_external`. -/
def externalUrl (discoverUrl : String) : List Char :=
  let url := discoverUrl.toList ++ (if '?' ∈ discoverUrl.toList then "&" else "?").toList ++
    "target_link_uri=".toList ++ (urlEncode page.currentUrl).toList ++
    "&method=".toList ++ page.method.toList ++
    "&oidc_callback=".toList ++ (urlEncode page.redirectUri).toList ++
    "&x_csrf=".toList ++ (urlEncode page.csrf).toList
  let url := withParameter url "&" "scopes" page.pathScopes
  withParameter url "&" "auth_request_params" page.pathAuthRequestParams

/-- The cookie with the token. -/
def tokenCookie (context : Http.CookieContext) (samesite : Option String) : Http.SetCookie :=
  setCookie context "x_csrf" page.csrf (-1) samesite

end Page

/-! ## Queries -/

/-- A query with values that are encoded already. -/
def query (params : List (String × String)) : List Char :=
  ['&'].intercalate (params.map fun param => param.1.toList ++ '=' :: param.2.toList)

/-- The names and values can be told apart. -/
def Separate (params : List (String × String)) : Prop :=
  ∀ param ∈ params, '=' ∉ param.1.toList ∧ '&' ∉ param.1.toList ∧ '&' ∉ param.2.toList

theorem parameterKey_prefix_iff {name other : String} {value : List Char}
    (clean : '=' ∉ name.toList) (clean' : '=' ∉ other.toList) :
    parameterKey name <+: other.toList ++ '=' :: value ↔ name = other := by
  constructor
  · rintro ⟨rest, whole⟩
    rw [parameterKey, List.append_assoc, List.singleton_append] at whole
    exact String.toList_inj.mp (append_separator_inj clean clean' whole).1
  · rintro rfl
    exact ⟨value, by rw [parameterKey, List.append_assoc, List.singleton_append]⟩

/-- The value of a parameter is that of the last one with its name. -/
theorem parameterGet_query {params : List (String × String)} (separate : Separate params)
    {name : String} (clean : '=' ∉ name.toList) :
    parameterGet (some (String.ofList (query params))) name =
      ((params.filter fun param => param.1 = name).getLast?).map fun param =>
        urlDecode param.2 := by
  cases params with
  | nil => rfl
  | cons first rest =>
      have nonempty : String.ofList (query (first :: rest)) ≠ "" := by
        obtain ⟨more, joined⟩ := Http.intercalate_cons_append '&'
          (first.1.toList ++ '=' :: first.2.toList)
          (rest.map fun param => param.1.toList ++ '=' :: param.2.toList)
        rw [query, List.map_cons, joined]
        intro empty
        have none := congrArg String.toList empty
        simp at none
      have tokens : strtok '&' (query (first :: rest)) =
          (first :: rest).map fun param => param.1.toList ++ '=' :: param.2.toList := by
        refine strtok_intercalate (fun part member => ?_) fun part member => ?_
        · obtain ⟨param, own, rfl⟩ := List.mem_map.mp member
          obtain ⟨-, left, right⟩ := separate param own
          rw [List.mem_append, List.mem_cons, not_or, not_or]
          exact ⟨left, by decide, right⟩
        · obtain ⟨param, own, rfl⟩ := List.mem_map.mp member
          simp
      have selected : ((first :: rest).filter fun param =>
          decide (parameterKey name <+: param.1.toList ++ '=' :: param.2.toList)) =
          (first :: rest).filter fun param => param.1 = name := by
        apply List.filter_congr
        intro param own
        rw [decide_eq_decide, parameterKey_prefix_iff clean (separate param own).1]
        exact eq_comm
      rw [parameterGet, if_neg nonempty, String.toList_ofList, tokens, Util.parameterLoop_eq,
        Option.or_none, List.filter_map, Function.comp_def, selected, List.getLast?_map,
        Option.map_map]
      apply Option.map_congr
      intro param last
      have own := List.mem_of_getLast? last
      rw [List.mem_filter, decide_eq_true_eq] at own
      obtain ⟨-, rfl⟩ := own
      have behind : (param.1.toList ++ '=' :: param.2.toList).drop (parameterKey param.1).length =
          param.2.toList := by
        rw [parameterKey, List.length_append, List.length_singleton, ← List.drop_drop,
          List.drop_left, List.drop_one, List.tail_cons]
      rw [Function.comp_apply, behind, String.ofList_toList]

/-- Names that occur once have their own values. -/
theorem parameterGet_query_of_nodup {params : List (String × String)} (separate : Separate params)
    (once : (params.map Prod.fst).Nodup) {name value : String}
    (member : (name, value) ∈ params) :
    parameterGet (some (String.ofList (query params))) name = some (urlDecode value) := by
  have single : params.filter (fun param => param.1 = name) = [(name, value)] := by
    induction params with
    | nil => cases member
    | cons first rest ih =>
        rw [List.map_cons, List.nodup_cons] at once
        rcases List.mem_cons.mp member with rfl | later
        · have none : rest.filter (fun param => param.1 = name) = [] := by
            rw [List.filter_eq_nil_iff]
            intro param own same
            exact once.1 (List.mem_map.mpr ⟨param, own, of_decide_eq_true same⟩)
          rw [List.filter_cons_of_pos (by simp), none]
        · have other : first.1 ≠ name := fun same =>
            once.1 (List.mem_map.mpr ⟨_, later, same.symm⟩)
          rw [List.filter_cons_of_neg (by simpa using other)]
          exact ih (fun param own => separate param (List.mem_cons_of_mem _ own)) once.2 later
  rw [parameterGet_query separate (separate _ member).1, single]
  rfl

theorem parameterGet_query_of_notMem {params : List (String × String)} (separate : Separate params)
    {name : String} (clean : '=' ∉ name.toList) (missing : name ∉ params.map Prod.fst) :
    parameterGet (some (String.ofList (query params))) name = none := by
  have none : params.filter (fun param => param.1 = name) = [] := by
    rw [List.filter_eq_nil_iff]
    intro param own same
    exact missing (List.mem_map.mpr ⟨param, own, of_decide_eq_true same⟩)
  rw [parameterGet_query separate clean, none]
  rfl

theorem query_cons_cons (first second : String × String) (rest : List (String × String)) :
    query (first :: second :: rest) =
      first.1.toList ++ '=' :: first.2.toList ++ '&' :: query (second :: rest) := by
  simp [query, List.intercalate_cons_cons]

/-- Another parameter goes behind those that are there. -/
theorem query_append_singleton {params : List (String × String)} (nonempty : params ≠ [])
    (param : String × String) :
    query (params ++ [param]) =
      query params ++ '&' :: (param.1.toList ++ '=' :: param.2.toList) := by
  induction params with
  | nil => exact absurd rfl nonempty
  | cons first rest ih =>
      cases rest with
      | nil => simp [query, List.intercalate]
      | cons second rest =>
          rw [List.cons_append, List.cons_append, query_cons_cons, query_cons_cons,
            ← List.cons_append, ih (List.cons_ne_nil _ _)]
          simp

/-! ## What a browser makes of the page -/

/-- A piece of an attribute stands for a text. -/
def Reads (html text : List Char) : Prop :=
  ∀ rest, Util.Html.unescape 0 (html ++ rest) = text ++ Util.Html.unescape 0 rest

theorem Reads.append {html text html' text' : List Char} (first : Reads html text)
    (second : Reads html' text') : Reads (html ++ html') (text ++ text') := by
  intro rest
  rw [List.append_assoc, first, second, List.append_assoc]

theorem Reads.all {html text : List Char} (reads : Reads html text) :
    Util.Html.unescape 0 html = text := by
  have whole := reads []
  rwa [List.append_nil, Util.Html.unescape, List.append_nil] at whole

theorem reads_render (text : List Char) :
    Reads (Util.Html.render Util.Html.htmlEscapeChar text) text := by
  intro rest
  induction text with
  | nil => rfl
  | cons c text ih =>
      rw [Util.Html.render, List.flatMap_cons, ← Util.Html.render, List.append_assoc,
        Util.Html.unescape_piece, ih, List.cons_append]

theorem htmlEscape_eq {text : String} (bytes : NulFree text) :
    Page.escaped text = Util.Html.render Util.Html.htmlEscapeChar text.toList := by
  refine Util.Html.cString_escapeWith Util.Html.htmlEscapeChar_clean fun member => ?_
  exact (bytes _ member).1 rfl

theorem reads_escaped {text : String} (bytes : NulFree text) :
    Reads (Page.escaped text) text.toList := by
  rw [htmlEscape_eq bytes]
  exact reads_render _

/-- What has no ampersand stands for itself. -/
theorem reads_plain {text : List Char} (plain : '&' ∉ text) : Reads text text := by
  intro rest
  induction text with
  | nil => rfl
  | cons c text ih =>
      rw [List.mem_cons, not_or] at plain
      have none : Util.Html.entities.find? (fun entity =>
          entity.1 <+: c :: (text ++ rest)) = none := by
        rw [List.find?_eq_none]
        intro entity member front
        obtain ⟨tail, whole, -⟩ := Util.Html.entity_cons member
        rw [decide_eq_true_iff, whole, List.cons_prefix_cons] at front
        exact plain.1 front.1
      rw [List.cons_append, Util.Html.unescape, none, List.cons_append]
      dsimp only
      rw [ih plain.2]

theorem reads_ampersand : Reads "&amp;".toList "&".toList := reads_render ['&']

/-- The query of the request that a browser makes for a URL. -/
def requestArgs (url : List Char) : List Char :=
  ((url.takeWhile (· ≠ '#')).dropWhile (· ≠ '?')).drop 1

theorem requestArgs_append {front : List Char} (plain : '?' ∉ front ∧ '#' ∉ front)
    {args : List Char} (clean : '#' ∉ args) : requestArgs (front ++ '?' :: args) = args := by
  have whole : '#' ∉ front ++ '?' :: args := by
    rw [List.mem_append, List.mem_cons, not_or, not_or]
    exact ⟨plain.2, by decide, clean⟩
  have kept : (front ++ '?' :: args).takeWhile (· ≠ '#') = front ++ '?' :: args := by
    rw [List.takeWhile_eq_self_iff]
    intro c member
    exact decide_eq_true fun same => whole (same ▸ member)
  have passed : ∀ c ∈ front, decide (c ≠ '?') = true := by
    intro c member
    exact decide_eq_true fun same => plain.1 (same ▸ member)
  rw [requestArgs, kept, List.dropWhile_append_of_pos passed]
  simp

/-! ## What comes back -/

/-- How the values of a query are written. -/
structure Encoder where
  encode : String → String
  /-- The module reads them as they were. -/
  decodes : ∀ text, NulFree text → urlDecode (encode text) = text
  /-- They do not end early. -/
  clean : ∀ text, NulFree text → '&' ∉ (encode text).toList

/-- The values of a link, from `oidc_http_url_encode`. -/
def linkEncoder : Encoder where
  encode := urlEncode
  decodes := fun _ bytes => Http.urlDecode_urlEncode bytes
  clean := fun _ bytes => bytes.percentEncoded.notMem (by decide) (by decide) (by decide)

/-- A byte of a value that a browser sends for the control of a form. -/
def formEncodeByte (c : Char) : List Char :=
  if c = ' ' then ['+']
  else if c = '*' then ['*']
  else if c = '~' then ['%', '7', 'E']
  else FileCache.encodeByte c.toNat.toUInt8

/-- The `application/x-www-form-urlencoded` value of a control. -/
def formEncode (text : String) : String :=
  String.ofList (text.toList.flatMap formEncodeByte)

theorem urlDecodeLoop_formEncodeByte {c : Char} (small : c.toNat < 256) (rest : List Char) :
    Http.urlDecodeLoop (formEncodeByte c ++ rest) = c :: Http.urlDecodeLoop rest := by
  unfold formEncodeByte
  split
  · next same =>
      subst same
      rfl
  · split
    · next same =>
        subst same
        exact Http.urlDecodeLoop_cons (by decide) (by decide) rest
    · split
      · next same =>
          subst same
          rfl
      · exact Http.urlDecodeLoop_encodeByte small rest

theorem ampersand_formEncodeByte {c : Char} (small : c.toNat < 256) : '&' ∉ formEncodeByte c := by
  unfold formEncodeByte
  split
  · decide
  · split
    · decide
    · split
      · decide
      · exact (Http.percentEncoded_encodeByte small).notMem (by decide) (by decide) (by decide)

theorem urlDecodeLoop_formEncode {chars : List Char} (small : ∀ c ∈ chars, c.toNat < 256) :
    Http.urlDecodeLoop (chars.flatMap formEncodeByte) = chars := by
  induction chars with
  | nil => rfl
  | cons c chars ih =>
      rw [List.flatMap_cons, urlDecodeLoop_formEncodeByte (small c List.mem_cons_self), ih]
      intro d member
      exact small d (List.mem_cons_of_mem c member)

/-- The values of a form. -/
def formEncoder : Encoder where
  encode := formEncode
  decodes := by
    intro text bytes
    have whole : text.toList.takeWhile (· ≠ '\x00') = text.toList := by
      rw [List.takeWhile_eq_self_iff]
      intro c member
      exact decide_eq_true (bytes c member).1
    rw [urlDecode, formEncode, String.toList_ofList,
      urlDecodeLoop_formEncode fun c member => (bytes c member).2, whole, String.ofList_toList]
  clean := by
    intro text bytes member
    rw [formEncode, String.toList_ofList, List.mem_flatMap] at member
    obtain ⟨c, own, inside⟩ := member
    exact ampersand_formEncodeByte (bytes c own).2 inside

/-- The query with values that are to be encoded. -/
def encoded (encoder : Encoder) (params : List (String × String)) : List Char :=
  query (params.map fun param => (param.1, encoder.encode param.2))

/-- A parameter that may be missing. -/
def optional (name : String) (value : Option String) : List (String × String) :=
  value.toList.map fun value => (name, value)

/-- What a response says: the choice of the user, and all that went into the page. -/
def answers (page : Page) (issuer : String) : List (String × String) :=
  [("iss", issuer), ("target_link_uri", page.currentUrl), ("method", page.method),
    ("x_csrf", page.csrf)] ++ optional "scopes" page.pathScopes ++
    optional "auth_request_params" page.pathAuthRequestParams

/-- What another page is told, with the address to come back to. -/
def externalAnswers (page : Page) : List (String × String) :=
  [("target_link_uri", page.currentUrl), ("method", page.method),
    ("oidc_callback", page.redirectUri), ("x_csrf", page.csrf)] ++
    optional "scopes" page.pathScopes ++ optional "auth_request_params" page.pathAuthRequestParams

/-- The query of the form when the user has entered an issuer. -/
def submission (page : Page) (issuer : String) : List Char :=
  encoded formEncoder (page.formFields.map (fun field =>
    (field.1, String.ofList (Util.Html.unescape 0 field.2))) ++ [("iss", issuer)])

/-- The module makes of a response what went into the page. -/
structure ComesBack (page : Page) (issuer : String) (request : Request) : Prop where
  discovery : isDiscoveryResponse request = true
  issuer : parameterGet request.args "iss" = some issuer
  user : parameterGet request.args "disc_user" = none
  target : parameterGet request.args "target_link_uri" = some page.currentUrl
  method : parameterGet request.args "method" = some page.method
  token : csrfCheck request = true
  scopes : privileged request "scopes" = page.pathScopes
  authRequestParams : privileged request "auth_request_params" = page.pathAuthRequestParams

namespace Page

variable (page : Page)

/-- A character of the token is one that is not encoded. -/
theorem csrf_unreserved {c : Char} (member : c ∈ page.csrf.toList) :
    c.toNat < 256 ∧ FileCache.unreserved c.toNat.toUInt8 = true := by
  have all : Base64Url.alphabet.all (fun c =>
      (65 ≤ c.toNat && c.toNat ≤ 90) || (97 ≤ c.toNat && c.toNat ≤ 122) ||
        (48 ≤ c.toNat && c.toNat ≤ 57) || c.toNat == 45 || c.toNat == 95) = true := rfl
  rw [csrf, String.toList_ofList] at member
  have letter := Base64Url.mem_encode _ c member
  have own := List.all_eq_true.mp all c letter
  have small : c.toNat < 256 := lt_trans (Base64Url.alphabet_ascii c letter) (by decide)
  refine ⟨small, ?_⟩
  simp only [Bool.or_eq_true, Bool.and_eq_true, decide_eq_true_eq, beq_iff_eq] at own
  simp only [FileCache.unreserved, UInt8.le_iff_toNat_le, ← UInt8.toNat_inj,
    Http.toNat_byte small, UInt8.reduceToNat, decide_eq_true_eq]
  omega

theorem csrf_bytes : NulFree page.csrf := by
  intro c member
  obtain ⟨small, keep⟩ := page.csrf_unreserved member
  refine ⟨?_, small⟩
  rintro rfl
  exact absurd keep (by decide)

theorem urlEncode_csrf : urlEncode page.csrf = page.csrf := by
  have same : page.csrf.toList.flatMap (fun c => FileCache.encodeByte c.toNat.toUInt8) =
      page.csrf.toList.flatMap fun c => [c] := by
    apply List.flatMap_congr
    intro c member
    obtain ⟨small, keep⟩ := page.csrf_unreserved member
    rw [FileCache.encodeByte, if_pos keep, Http.toNat_byte small, Char.ofNat_toNat]
  rw [urlEncode, same, List.flatMap_singleton', String.ofList_toList]

theorem csrf_ne : page.csrf ≠ "" := by
  intro empty
  have none := congrArg String.toList empty
  rw [csrf, String.toList_ofList] at none
  have length := Base64Url.length_encode page.token
  rw [none] at length
  have some := List.length_pos_of_ne_nil page.token_ne
  simp at length
  omega

theorem method_bytes : NulFree page.method := by
  rcases page.method_known with same | same
  · rw [same]
    decide
  · rw [same]
    decide

theorem urlEncode_method : urlEncode page.method = page.method := by
  rcases page.method_known with same | same
  · rw [same]
    decide
  · rw [same]
    decide

end Page

/-! ## Any answer -/

/-- Parameters that can be read from their query: with one value for each name. -/
structure Tidy (params : List (String × String)) : Prop where
  once : (params.map Prod.fst).Nodup
  named : ∀ name ∈ params.map Prod.fst, '=' ∉ name.toList ∧ '&' ∉ name.toList
  bytes : ∀ param ∈ params, NulFree param.2

section Tidy

variable {params params' : List (String × String)} {name : String}

theorem Tidy.perm (tidy : Tidy params) (same : params'.Perm params) : Tidy params' where
  once := (same.map Prod.fst).nodup_iff.mpr tidy.once
  named := fun name member => tidy.named name ((same.map Prod.fst).mem_iff.mp member)
  bytes := fun param member => tidy.bytes param (same.mem_iff.mp member)

theorem mem_optional {value : Option String} {param : String × String}
    (member : param ∈ optional name value) : param.1 = name ∧ value = some param.2 := by
  obtain ⟨text, own, rfl⟩ := List.mem_map.mp member
  exact ⟨rfl, Option.mem_toList.mp own⟩

/-- One more parameter that may be missing. -/
theorem Tidy.append_optional (tidy : Tidy params) (new : name ∉ params.map Prod.fst)
    (clean : '=' ∉ name.toList ∧ '&' ∉ name.toList) {value : Option String}
    (bytes : ∀ text ∈ value, NulFree text) : Tidy (params ++ optional name value) := by
  have own {other : String} (member : other ∈ (optional name value).map Prod.fst) :
      other = name := by
    obtain ⟨param, listed, rfl⟩ := List.mem_map.mp member
    exact (mem_optional listed).1
  constructor
  · rw [List.map_append, List.nodup_append']
    refine ⟨tidy.once, ?_, fun other member member' => new (own member' ▸ member)⟩
    cases value with
    | none => exact List.nodup_nil
    | some text => exact List.nodup_singleton _
  · intro other member
    rw [List.map_append, List.mem_append] at member
    rcases member with member | member
    · exact tidy.named other member
    · exact own member ▸ clean
  · intro param member
    rcases List.mem_append.mp member with member | member
    · exact tidy.bytes param member
    · exact bytes _ (mem_optional member).2

variable (encoder : Encoder)

theorem Tidy.separate (tidy : Tidy params) :
    Separate (params.map fun param => (param.1, encoder.encode param.2)) := by
  intro param member
  obtain ⟨own, listed, rfl⟩ := List.mem_map.mp member
  obtain ⟨equals, ampersand⟩ := tidy.named own.1 (List.mem_map_of_mem listed)
  exact ⟨equals, ampersand, encoder.clean _ (tidy.bytes own listed)⟩

/-- A parameter that was put in is read. -/
theorem Tidy.get (tidy : Tidy params) {value : String} (member : (name, value) ∈ params) :
    parameterGet (some (String.ofList (encoded encoder params))) name = some value := by
  have once : ((params.map fun param => (param.1, encoder.encode param.2)).map Prod.fst).Nodup := by
    rw [List.map_map]
    exact tidy.once
  rw [encoded, parameterGet_query_of_nodup (tidy.separate encoder) once
    (List.mem_map_of_mem member), encoder.decodes]
  exact tidy.bytes _ member

/-- A parameter that was not put in is not found. -/
theorem Tidy.get_none (tidy : Tidy params) (clean : '=' ∉ name.toList)
    (missing : name ∉ params.map Prod.fst) :
    parameterGet (some (String.ofList (encoded encoder params))) name = none := by
  rw [encoded, parameterGet_query_of_notMem (tidy.separate encoder) clean]
  rw [List.map_map]
  exact missing

/-- A parameter that may be missing is read as it is. -/
theorem Tidy.get_optional (tidy : Tidy params) {value : Option String} (clean : '=' ∉ name.toList)
    (present : ∀ text, value = some text → (name, text) ∈ params)
    (missing : value = none → name ∉ params.map Prod.fst) :
    parameterGet (some (String.ofList (encoded encoder params))) name = value := by
  cases value with
  | none => exact tidy.get_none encoder clean (missing rfl)
  | some text => exact tidy.get encoder (present text rfl)

end Tidy

section Answers

variable (page : Page) {issuer : String}

theorem tidy_answers (bytes : NulFree issuer) : Tidy (answers page issuer) := by
  have first : Tidy [("iss", issuer), ("target_link_uri", page.currentUrl),
      ("method", page.method), ("x_csrf", page.csrf)] := by
    constructor
    · simp
    · have all : ∀ name ∈ ["iss", "target_link_uri", "method", "x_csrf"],
          '=' ∉ name.toList ∧ '&' ∉ name.toList := by
        decide
      exact all
    · intro param member
      simp only [List.mem_cons, List.not_mem_nil, or_false] at member
      rcases member with rfl | rfl | rfl | rfl
      · exact bytes
      · exact page.currentUrl_bytes
      · exact page.method_bytes
      · exact page.csrf_bytes
  refine (first.append_optional (by simp) (by decide) page.pathScopes_bytes).append_optional ?_
    (by decide) page.pathAuthRequestParams_bytes
  simp [optional]

theorem tidy_externalAnswers : Tidy (externalAnswers page) := by
  have first : Tidy [("target_link_uri", page.currentUrl), ("method", page.method),
      ("oidc_callback", page.redirectUri), ("x_csrf", page.csrf)] := by
    constructor
    · simp
    · have all : ∀ name ∈ ["target_link_uri", "method", "oidc_callback", "x_csrf"],
          '=' ∉ name.toList ∧ '&' ∉ name.toList := by
        decide
      exact all
    · intro param member
      simp only [List.mem_cons, List.not_mem_nil, or_false] at member
      rcases member with rfl | rfl | rfl | rfl
      · exact page.currentUrl_bytes
      · exact page.method_bytes
      · exact page.redirectUri_bytes
      · exact page.csrf_bytes
  refine (first.append_optional (by simp) (by decide) page.pathScopes_bytes).append_optional ?_
    (by decide) page.pathAuthRequestParams_bytes
  simp [optional]

/-- The browser returns the token. -/
theorem getCookie_tokenCookie (context : Http.CookieContext) (samesite : Option String) (jar : Jar)
    (now : Int) :
    getCookie (jar.apply now (page.tokenCookie context samesite)).header "x_csrf" =
      some page.csrf := by
  have fresh : (page.tokenCookie context samesite).expires = none := by
    rw [Page.tokenCookie, setCookie, if_neg page.csrf_ne, if_pos rfl]
  have clean : ';' ∉ page.csrf.toList := by
    intro member
    exact absurd (page.csrf_unreserved member).2 (by decide)
  have named : Http.NameOk "x_csrf" := by decide
  have kept : (page.tokenCookie context samesite).expires.any (fun expires => expires ≤ now) =
      false := by
    rw [fresh]
    rfl
  rw [Jar.getCookie_header _ named, Jar.get_apply_store kept named]
  exact congrArg some (Jar.cutValue_of_clean clean)

/-- Whoever sends back what went into the page, in any order and in any encoding that the module
reads, is understood. -/
theorem comesBack_of_perm (encoder : Encoder) {params : List (String × String)}
    (bytes : NulFree issuer) (same : params.Perm (answers page issuer)) {cookies : Option String}
    (token : getCookie cookies "x_csrf" = some page.csrf) :
    ComesBack page issuer ⟨some (String.ofList (encoded encoder params)), cookies⟩ := by
  have tidy : Tidy params := (tidy_answers page bytes).perm same
  have get {name value : String} (member : (name, value) ∈ answers page issuer) :
      parameterGet (some (String.ofList (encoded encoder params))) name = some value :=
    tidy.get encoder (same.mem_iff.mpr member)
  have missing {name : String} (other : name ∉ (answers page issuer).map Prod.fst) :
      name ∉ params.map Prod.fst :=
    fun member => other ((same.map Prod.fst).mem_iff.mp member)
  have chosen : parameterGet (some (String.ofList (encoded encoder params))) "iss" =
      some issuer := get (by simp [answers])
  have sent : parameterGet (some (String.ofList (encoded encoder params))) "x_csrf" =
      some page.csrf := get (by simp [answers])
  have genuine : csrfCheck ⟨some (String.ofList (encoded encoder params)), cookies⟩ = true := by
    rw [csrfCheck, token]
    exact decide_eq_true sent
  constructor
  · rw [isDiscoveryResponse, Util.hasParameter_eq _ (by decide), chosen]
    rfl
  · exact chosen
  · exact tidy.get_none encoder (by decide) (missing (by simp [answers, optional]))
  · exact get (by simp [answers])
  · exact get (by simp [answers])
  · exact genuine
  · rw [privileged, if_pos genuine]
    refine tidy.get_optional encoder (by decide) (fun text set => same.mem_iff.mpr ?_)
      fun unset => missing ?_
    · simp [answers, optional, set]
    · simp [answers, optional, unset]
  · rw [privileged, if_pos genuine]
    refine tidy.get_optional encoder (by decide) (fun text set => same.mem_iff.mpr ?_)
      fun unset => missing ?_
    · simp [answers, optional, set]
    · simp [answers, optional, unset]

end Answers

/-! ## The link -/

theorem reads_withParameter {href text : List Char} (reads : Reads href text) {name : String}
    (plain : '&' ∉ name.toList) {value : Option String} (bytes : ∀ text ∈ value, NulFree text) :
    Reads (Page.withParameter href "&amp;" name value)
      (Page.withParameter text "&" name value) := by
  cases value with
  | none => exact reads
  | some value =>
      exact (((reads.append reads_ampersand).append (reads_plain plain)).append
        (reads_plain (by decide))).append (reads_plain (linkEncoder.clean _ (bytes value rfl)))

theorem withParameter_append (front href : List Char) (ampersand name : String)
    (value : Option String) :
    Page.withParameter (front ++ href) ampersand name value =
      front ++ Page.withParameter href ampersand name value := by
  cases value with
  | none => rfl
  | some value => simp [Page.withParameter]

/-- A parameter of a link that may be missing is one of its query. -/
theorem encoded_append_optional {params : List (String × String)} (nonempty : params ≠ [])
    (name : String) (value : Option String) :
    encoded linkEncoder (params ++ optional name value) =
      Page.withParameter (encoded linkEncoder params) "&" name value := by
  cases value with
  | none =>
      rw [optional, Option.toList_none, List.map_nil, List.append_nil]
      rfl
  | some value =>
      have more : params.map (fun param => (param.1, linkEncoder.encode param.2)) ≠ [] := by
        rwa [Ne, List.map_eq_nil_iff]
      rw [encoded, optional, Option.toList_some, List.map_singleton, List.map_append,
        List.map_singleton, query_append_singleton more]
      simp [Page.withParameter, encoded, linkEncoder]

theorem reads_literal {html text : List Char} (name : String) (plain : '&' ∉ name.toList)
    (whole : html = "&amp;".toList ++ name.toList) (whole' : text = "&".toList ++ name.toList) :
    Reads html text := by
  rw [whole, whole']
  exact reads_ampersand.append (reads_plain plain)

section Link

variable (page : Page) {issuer : String}

/-- The first parameters of the link. -/
theorem encoded_first : encoded linkEncoder [("iss", issuer), ("target_link_uri", page.currentUrl),
      ("method", page.method), ("x_csrf", page.csrf)] =
    "iss=".toList ++ (urlEncode issuer).toList ++ "&target_link_uri=".toList ++
      (urlEncode page.currentUrl).toList ++ "&method=".toList ++ page.method.toList ++
      "&x_csrf=".toList ++ page.csrf.toList := by
  simp [encoded, query, List.intercalate_cons_cons, linkEncoder, page.urlEncode_csrf,
    page.urlEncode_method]

/-- The address that the browser takes from the link. -/
theorem unescape_providerHref (bytes : NulFree issuer) :
    Util.Html.unescape 0 (page.providerHref issuer) =
      page.redirectUri.toList ++ '?' :: encoded linkEncoder (answers page issuer) := by
  have value {text : String} (bytes : NulFree text) :
      Reads (urlEncode text).toList (urlEncode text).toList :=
    reads_plain (linkEncoder.clean _ bytes)
  have method : Reads page.method.toList page.method.toList := by
    rw [← page.urlEncode_method]
    exact value page.method_bytes
  have token : Reads page.csrf.toList page.csrf.toList := by
    rw [← page.urlEncode_csrf]
    exact value page.csrf_bytes
  have first : Reads "?iss=".toList "?iss=".toList := reads_plain (by decide)
  have second : Reads "&amp;target_link_uri=".toList "&target_link_uri=".toList :=
    reads_literal "target_link_uri=" (by decide) (by decide) (by decide)
  have third : Reads "&amp;method=".toList "&method=".toList :=
    reads_literal "method=" (by decide) (by decide) (by decide)
  have fourth : Reads "&amp;x_csrf=".toList "&x_csrf=".toList :=
    reads_literal "x_csrf=" (by decide) (by decide) (by decide)
  have start := ((((((((reads_escaped page.redirectUri_bytes).append first).append
    (value bytes)).append second).append (value page.currentUrl_bytes)).append third).append
    method).append fourth).append token
  have scopes : Reads _ (Page.withParameter _ "&" "scopes" page.pathScopes) :=
    reads_withParameter start (by decide) page.pathScopes_bytes
  have whole : Reads _ (Page.withParameter _ "&" "auth_request_params"
      page.pathAuthRequestParams) :=
    reads_withParameter scopes (by decide) page.pathAuthRequestParams_bytes
  rw [Page.providerHref, whole.all, answers, encoded_append_optional (by simp),
    encoded_append_optional (by simp), encoded_first, ← List.singleton_append,
    ← List.append_assoc, ← withParameter_append, ← withParameter_append]
  simp

/-- What the characters of a query come from. -/
theorem mem_query {params : List (String × String)} {c : Char} (member : c ∈ query params) :
    c = '&' ∨ c = '=' ∨ ∃ param ∈ params, c ∈ param.1.toList ∨ c ∈ param.2.toList := by
  induction params with
  | nil => exact absurd member List.not_mem_nil
  | cons first rest ih =>
      have own (inside : c ∈ first.1.toList ++ '=' :: first.2.toList) :
          c = '&' ∨ c = '=' ∨ ∃ param ∈ first :: rest, c ∈ param.1.toList ∨ c ∈ param.2.toList := by
        rw [List.mem_append, List.mem_cons] at inside
        rcases inside with name | sign | value
        · exact .inr (.inr ⟨first, List.mem_cons_self, .inl name⟩)
        · exact .inr (.inl sign)
        · exact .inr (.inr ⟨first, List.mem_cons_self, .inr value⟩)
      cases rest with
      | nil =>
          rw [query, List.map_cons, List.map_nil, List.intercalate_singleton] at member
          exact own member
      | cons second rest =>
          rw [query_cons_cons, List.mem_append, List.mem_cons] at member
          rcases member with inside | amp | later
          · exact own inside
          · exact .inl amp
          · rcases ih later with amp | sign | ⟨param, listed, inside⟩
            · exact .inl amp
            · exact .inr (.inl sign)
            · exact .inr (.inr ⟨param, List.mem_cons_of_mem _ listed, inside⟩)

/-- A fragment does not begin in the query of a link. -/
theorem hash_notMem_encoded {params : List (String × String)} (tidy : Tidy params)
    (names : ∀ param ∈ params, '#' ∉ param.1.toList) : '#' ∉ encoded linkEncoder params := by
  intro member
  rcases mem_query member with amp | sign | ⟨param, listed, inside⟩
  · exact absurd amp (by decide)
  · exact absurd sign (by decide)
  · obtain ⟨own, given, rfl⟩ := List.mem_map.mp listed
    rcases inside with name | value
    · exact names own given name
    · exact (tidy.bytes own given).percentEncoded.notMem (by decide) (by decide) (by decide) value

theorem hash_notMem_optional {name : String} (clean : '#' ∉ name.toList) {value : Option String} :
    ∀ param ∈ optional name value, '#' ∉ param.1.toList := by
  intro param member
  rw [(mem_optional member).1]
  exact clean

theorem hash_notMem_answers : ∀ param ∈ answers page issuer, '#' ∉ param.1.toList := by
  intro param member
  rw [answers, List.mem_append, List.mem_append] at member
  rcases member with (first | scopes) | params
  · simp only [List.mem_cons, List.not_mem_nil, or_false] at first
    rcases first with rfl | rfl | rfl | rfl
    · exact (show '#' ∉ "iss".toList by decide)
    · exact (show '#' ∉ "target_link_uri".toList by decide)
    · exact (show '#' ∉ "method".toList by decide)
    · exact (show '#' ∉ "x_csrf".toList by decide)
  · exact hash_notMem_optional (by decide) param scopes
  · exact hash_notMem_optional (by decide) param params

/-- The query of the request that the link leads to. -/
theorem requestArgs_providerHref (bytes : NulFree issuer) :
    requestArgs (Util.Html.unescape 0 (page.providerHref issuer)) =
      encoded linkEncoder (answers page issuer) := by
  rw [unescape_providerHref page bytes]
  exact requestArgs_append page.redirectUri_plain
    (hash_notMem_encoded (tidy_answers page bytes) (hash_notMem_answers page))

/-- Nothing in the link ends the attribute that it is in. -/
theorem quote_notMem_providerHref (bytes : NulFree issuer) : '"' ∉ page.providerHref issuer := by
  have value {text : String} (bytes : NulFree text) : '"' ∉ (urlEncode text).toList :=
    bytes.percentEncoded.notMem (by decide) (by decide) (by decide)
  have escaped : '"' ∉ Page.escaped page.redirectUri := by
    intro member
    rw [htmlEscape_eq page.redirectUri_bytes] at member
    exact (Util.Html.plain_render _ member).2.2.1 rfl
  have method : '"' ∉ page.method.toList := page.urlEncode_method ▸ value page.method_bytes
  have token : '"' ∉ page.csrf.toList := page.urlEncode_csrf ▸ value page.csrf_bytes
  have more {href : List Char} (clean : '"' ∉ href) {name : String} (plain : '"' ∉ name.toList)
      {text : Option String} (bytes : ∀ value ∈ text, NulFree value) :
      '"' ∉ Page.withParameter href "&amp;" name text := by
    cases text with
    | none => exact clean
    | some text => simp [Page.withParameter, clean, plain, value (bytes text rfl)]
  refine more (more ?_ (by decide) page.pathScopes_bytes) (by decide)
    page.pathAuthRequestParams_bytes
  simp [escaped, method, token, value bytes, value page.currentUrl_bytes]

end Link

/-! ## The form -/

section Form

variable (page : Page) {issuer : String}

theorem unescape_escaped {text : String} (bytes : NulFree text) :
    String.ofList (Util.Html.unescape 0 (Page.escaped text)) = text := by
  rw [(reads_escaped bytes).all, String.ofList_toList]

/-- The browser has the values of the fields as they were put in. -/
theorem read_formFields : page.formFields.map (fun field =>
      (field.1, String.ofList (Util.Html.unescape 0 field.2))) =
    [("target_link_uri", page.currentUrl), ("method", page.method), ("x_csrf", page.csrf)] ++
      optional "scopes" page.pathScopes ++
      optional "auth_request_params" page.pathAuthRequestParams := by
  have field {name : String} {value : Option String} (bytes : ∀ text ∈ value, NulFree text) :
      (value.toList.map fun text => (name, Page.escaped text)).map (fun field =>
        (field.1, String.ofList (Util.Html.unescape 0 field.2))) = optional name value := by
    cases value with
    | none => rfl
    | some text =>
        rw [Option.toList_some, List.map_singleton, List.map_singleton,
          unescape_escaped (bytes text rfl)]
        rfl
  rw [Page.formFields, List.map_append, List.map_append, field page.pathScopes_bytes,
    field page.pathAuthRequestParams_bytes]
  simp [unescape_escaped page.currentUrl_bytes, unescape_escaped page.method_bytes,
    unescape_escaped page.csrf_bytes]

theorem perm_formFields : (page.formFields.map (fun field =>
      (field.1, String.ofList (Util.Html.unescape 0 field.2))) ++ [("iss", issuer)]).Perm
    (answers page issuer) := by
  rw [read_formFields]
  exact List.perm_append_singleton _ _

/-- Nothing in a field ends the attribute that it is in. -/
theorem quote_notMem_formFields : ∀ field ∈ page.formFields, '"' ∉ field.2 := by
  have escaped {text : String} (bytes : NulFree text) : '"' ∉ Page.escaped text := by
    intro member
    rw [htmlEscape_eq bytes] at member
    exact (Util.Html.plain_render _ member).2.2.1 rfl
  intro field member
  rw [Page.formFields, List.mem_append, List.mem_append] at member
  rcases member with (first | scopes) | params
  · simp only [List.mem_cons, List.not_mem_nil, or_false] at first
    rcases first with rfl | rfl | rfl
    · exact escaped page.currentUrl_bytes
    · exact escaped page.method_bytes
    · exact escaped page.csrf_bytes
  · obtain ⟨text, own, rfl⟩ := List.mem_map.mp scopes
    exact escaped (page.pathScopes_bytes text (Option.mem_toList.mp own))
  · obtain ⟨text, own, rfl⟩ := List.mem_map.mp params
    exact escaped (page.pathAuthRequestParams_bytes text (Option.mem_toList.mp own))

end Form

/-! ## Another page -/

section External

variable (page : Page)

/-- The parameters of a query that stand behind others are found first. -/
theorem parameterGet_behind (front args : List Char) (name : String) :
    parameterGet (some (String.ofList (front ++ '&' :: args))) name =
      (parameterGet (some (String.ofList args)) name).or
        (parameterGet (some (String.ofList front)) name) := by
  rw [Util.parameterGet_eq, Util.parameterGet_eq, Util.parameterGet_eq, Util.lastParameter,
    Util.lastParameter, Util.lastParameter, Option.getD_some, Option.getD_some, Option.getD_some,
    String.toList_ofList, String.toList_ofList, String.toList_ofList,
    List.splitOn_append_cons_self, List.filter_append, List.getLast?_append, Option.map_or]

theorem encoded_external : encoded linkEncoder [("target_link_uri", page.currentUrl),
      ("method", page.method), ("oidc_callback", page.redirectUri), ("x_csrf", page.csrf)] =
    "target_link_uri=".toList ++ (urlEncode page.currentUrl).toList ++
      "&method=".toList ++ page.method.toList ++
      "&oidc_callback=".toList ++ (urlEncode page.redirectUri).toList ++
      "&x_csrf=".toList ++ (urlEncode page.csrf).toList := by
  simp [encoded, query, List.intercalate_cons_cons, linkEncoder, page.urlEncode_method]

/-- The address of another page is the one that is configured, with more of a query. -/
theorem externalUrl_eq (discoverUrl : String) :
    page.externalUrl discoverUrl = discoverUrl.toList ++
      (if '?' ∈ discoverUrl.toList then "&" else "?").toList ++
      encoded linkEncoder (externalAnswers page) := by
  rw [Page.externalUrl, externalAnswers, encoded_append_optional (by simp),
    encoded_append_optional (by simp), encoded_external, ← withParameter_append,
    ← withParameter_append]
  simp only [List.append_assoc]

theorem hash_notMem_externalAnswers : ∀ param ∈ externalAnswers page, '#' ∉ param.1.toList := by
  intro param member
  rw [externalAnswers, List.mem_append, List.mem_append] at member
  rcases member with (first | scopes) | params
  · simp only [List.mem_cons, List.not_mem_nil, or_false] at first
    rcases first with rfl | rfl | rfl | rfl
    · exact (show '#' ∉ "target_link_uri".toList by decide)
    · exact (show '#' ∉ "method".toList by decide)
    · exact (show '#' ∉ "oidc_callback".toList by decide)
    · exact (show '#' ∉ "x_csrf".toList by decide)
  · exact hash_notMem_optional (by decide) param scopes
  · exact hash_notMem_optional (by decide) param params

/-- Whatever the configured address has itself, what is put behind it is read. -/
theorem parameterGet_externalUrl {discoverUrl : String} (plain : '#' ∉ discoverUrl.toList)
    {param : String × String} (member : param ∈ externalAnswers page) :
    parameterGet (some (String.ofList (requestArgs (page.externalUrl discoverUrl)))) param.1 =
      some param.2 := by
  have tidy := tidy_externalAnswers page
  have clean : '#' ∉ encoded linkEncoder (externalAnswers page) :=
    hash_notMem_encoded tidy (hash_notMem_externalAnswers page)
  rw [externalUrl_eq]
  by_cases own : '?' ∈ discoverUrl.toList
  · obtain ⟨front, args, whole, first⟩ := List.eq_append_cons_of_mem own
    rw [if_pos own]
    rw [whole, List.mem_append, List.mem_cons, not_or, not_or] at plain
    have amp : "&".toList = ['&'] := rfl
    rw [whole, amp, List.append_assoc, List.append_assoc, List.cons_append, List.singleton_append,
      requestArgs_append ⟨first, plain.1⟩, parameterGet_behind, tidy.get linkEncoder member,
      Option.some_or]
    rw [List.mem_append, List.mem_cons, not_or, not_or]
    exact ⟨plain.2.2, by decide, clean⟩
  · have sign : "?".toList = ['?'] := rfl
    rw [if_neg own, sign, List.append_assoc, List.singleton_append,
      requestArgs_append ⟨own, plain⟩ clean]
    exact tidy.get linkEncoder member

end External

/-- A page for a user who has searched for `a & "b"`. -/
def samplePage : Page where
  redirectUri := "https://rp/cb"
  redirectUri_bytes := by decide
  redirectUri_plain := by decide
  currentUrl := "https://rp/?q=a+%26&\"b\"~"
  currentUrl_bytes := by decide
  method := "get"
  method_known := .inl rfl
  token := [1, 2, 3]
  token_ne := List.cons_ne_nil _ _
  pathScopes := some "openid email"
  pathScopes_bytes := by decide
  pathAuthRequestParams := none
  pathAuthRequestParams_bytes := by decide

/-- The context of its cookie. -/
def sampleContext : Http.CookieContext := {}

end Discovery

end Handle

end ModAuthOpenidc
