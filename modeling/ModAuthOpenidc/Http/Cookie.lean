import ModAuthOpenidc.Text

/-!
# Cookies

The cookie functions of `src/http.c`: reading one cookie from the `Cookie` header, emitting
`Set-Cookie` headers, and storing one value in a set of chunk cookies.
-/

namespace ModAuthOpenidc

namespace Http

/-! ## Reading -/

/-- Skip the blanks in front of a cookie and return what follows `cookieName=`. -/
def cookieValue (cookieName : List Char) (cookie : List Char) : Option (List Char) :=
  (cookie.dropWhile (· = ' ')).dropPrefix? (cookieName ++ ['='])

/-- `oidc_http_get_cookie`: the first cookie of the header with the given name. -/
def getCookie (header : Option String) (cookieName : String) : Option String :=
  header.bind fun cookies =>
    ((strtok ';' cookies.toList).findSome? (cookieValue cookieName.toList)).map String.ofList

/-! ## Emitting -/

/-- The parts of the request and the configuration which `oidc_http_set_cookie` reads. -/
structure CookieContext where
  /-- `r->parsed_uri.path`. -/
  requestPath : Option String := none
  /-- `OIDCCookiePath`. -/
  cookiePath : Option String := none
  /-- `OIDCCookieDomain`. -/
  cookieDomain : Option String := none
  /-- `oidc_util_url_cur_is_secure`. -/
  secure : Bool := true
  /-- `OIDCCookieHTTPOnly`. -/
  httpOnly : Bool := true
  /-- The environment variable `OIDC_SET_COOKIE_APPEND`. -/
  append : Option String := none

/-- One `Set-Cookie` header. -/
structure SetCookie where
  name : String
  value : String
  path : String
  /-- The `Expires` attribute, absent for a session cookie. -/
  expires : Option Int
  domain : Option String
  secure : Bool
  httpOnly : Bool
  /-- A trailing attribute such as `SameSite`. -/
  extension : Option String
  deriving DecidableEq, Repr

/-- `oidc_http_get_path`: the request path up to its last slash. -/
def getPath (requestPath : Option String) : String :=
  match requestPath.map String.toList with
  | none => "/"
  | some [] => "/"
  | some (first :: rest) =>
      String.ofList (first :: (rest.reverse.dropWhile (· ≠ '/')).reverse)

/-- `oidc_http_get_cookie_path`. -/
def getCookiePath (context : CookieContext) : String :=
  match context.cookiePath with
  | none => getPath context.requestPath
  | some cookiePath =>
      if cookiePath.toList.isPrefixOf (getPath context.requestPath).toList then cookiePath
      else getPath context.requestPath

/-- `oidc_http_set_cookie`: an empty value removes the cookie. -/
def setCookie (context : CookieContext) (cookieName cookieValue : String) (expires : Int)
    (ext : Option String) : SetCookie where
  name := cookieName
  value := cookieValue
  path := getCookiePath context
  expires :=
    if cookieValue = "" then some 0 else if expires = -1 then none else some expires
  domain := context.cookieDomain
  secure := context.secure
  httpOnly := context.httpOnly
  extension := context.append.or ext

/-! ## Chunks -/

/-- `OIDC_HTTP_COOKIE_CHUNKS_MAX`. -/
def chunksMax : Int := 99

/-- `oidc_http_get_chunk_count_name`. -/
def chunkCountName (cookieName : String) : String := cookieName ++ "_" ++ "chunks"

/-- `oidc_http_get_chunk_cookie_name`. -/
def chunkCookieName (cookieName : String) (i : Nat) : String := cookieName ++ "_" ++ i.repr

/-- `oidc_http_get_chunked_count`. -/
def getChunkedCount (header : Option String) (cookieName : String) : Int :=
  strToInt (getCookie header (chunkCountName cookieName)) 0

/-- The loop of `oidc_http_get_chunked_cookie`: all chunks in order, or nothing. -/
def joinChunks (header : Option String) (cookieName : String) (chunkCount : Nat) : Option String :=
  ((List.range chunkCount).mapM fun i => getCookie header (chunkCookieName cookieName i)).map
    String.join

/-- `oidc_http_get_chunked_cookie`. -/
def getChunkedCookie (header : Option String) (cookieName : String) (chunkSize : Nat) :
    Option String :=
  if chunkSize = 0 then
    getCookie header cookieName
  else
    let chunkCount := getChunkedCount header cookieName
    if chunkCount = 0 then getCookie header cookieName
    else if chunkCount < 0 ∨ chunksMax < chunkCount then none
    else joinChunks header cookieName chunkCount.toNat

/-- `oidc_http_clear_chunked_cookie`. -/
def clearChunkedCookie (context : CookieContext) (header : Option String) (cookieName : String)
    (expires : Int) (ext : Option String) : List SetCookie :=
  let chunkCount := getChunkedCount header cookieName
  if 0 < chunkCount then
    (List.range chunkCount.toNat).map
        (fun i => setCookie context (chunkCookieName cookieName i) "" expires ext) ++
      [setCookie context (chunkCountName cookieName) "" expires ext]
  else
    []

/-- `apr_pstrndup(ptr, chunkSize)` after `i` steps of `ptr += chunkSize`. -/
def chunk (cookieValue : String) (chunkSize i : Nat) : String :=
  String.ofList ((cookieValue.toList.drop (i * chunkSize)).take chunkSize)

/-- `(int)strlen(cookieValue)`. -/
def lengthInt (cookieValue : String) : Int := (cookieValue.length : Int).bmod (2 ^ 32)

/-- `oidc_http_set_chunked_cookie`: the emitted headers and the result. -/
def setChunkedCookie (context : CookieContext) (header : Option String)
    (cookieName cookieValue : String) (expires : Int) (chunkSize : Nat) (ext : Option String) :
    List SetCookie × Bool :=
  let cookieLength := lengthInt cookieValue
  if chunkSize = 0 ∨ (0 < cookieLength ∧ cookieLength < chunkSize) then
    (setCookie context cookieName cookieValue expires ext ::
      clearChunkedCookie context header cookieName expires ext, true)
  else if cookieLength = 0 then
    (setCookie context cookieName "" expires ext ::
      clearChunkedCookie context header cookieName expires ext, true)
  else
    let chunkCountValue := ((cookieLength + chunkSize - 1).bmod (2 ^ 32)).tdiv chunkSize
    if chunksMax < chunkCountValue then
      ([], false)
    else
      ((List.range chunkCountValue.toNat).map
          (fun i => setCookie context (chunkCookieName cookieName i)
            (chunk cookieValue chunkSize i) expires ext) ++
        [setCookie context (chunkCountName cookieName) (toString chunkCountValue) expires ext,
          setCookie context cookieName "" expires ext], true)

end Http

end ModAuthOpenidc
