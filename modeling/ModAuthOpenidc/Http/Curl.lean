import ModAuthOpenidc.Http.Cookie
import ModAuthOpenidc.TextSearch
import ModAuthOpenidc.Threads

/-!
# Outgoing requests

`oidc_http_request` of `src/http.c` with the pool of its curl handles, as programs whose operations
are the calls of libcurl, the calls on the mutex of the pool, and the accesses to the pool. A handle
that was used is reset and put into the pool, and the next request sets its own options on it. What
curl receives goes to variables of the request, by way of callbacks.
-/

namespace ModAuthOpenidc

namespace Curl

open Threads

/-! ## Options -/

/-- A handle, as a pointer. -/
abbrev Handle := Nat

/-- The options of a handle that are set at all, without the prefix `CURLOPT_`. -/
inductive Opt
  | header | noProgress | noSignal | tcpKeepalive | errorBuffer | followLocation | maxRedirs
  | timeout | connectTimeout | writeFunction | writeData | headerFunction | headerData
  | redirProtocolsStr | protocolsStr | sslVerifyPeer | sslVerifyHost | sslOptions | sslVersion
  | caInfo | userAgent | interface | proxy | proxyUserPwd | proxyAuth | httpAuth | userPwd
  | sslCert | sslKey | keyPasswd | postFields | post | httpHeader | cookie | url
  deriving DecidableEq, Repr

/-- What an option is set to. -/
inductive Value
  | long (number : Int)
  | text (text : String)
  | lines (lines : List String)
  /-- A callback of the module. -/
  | callback
  /-- A variable of the call of `oidc_http_request` with some number. -/
  | variable (frame : Nat)
  deriving DecidableEq, Repr

/-- The options of a handle. -/
abbrev Options := Opt → Option Value

/-- `curl_easy_setopt`, where it succeeds. -/
def Options.set (options : Options) (setting : Opt × Value) : Options :=
  Function.update options setting.1 (some setting.2)

/-- A handle that was just made or reset. -/
def Options.initial : Options := fun _ => none

/-! ## Calls -/

/-- `oidc_http_timeout_t`. -/
structure Timeout where
  requestTimeout : Int := 30
  connectTimeout : Int := 10
  retries : Int := 1

/-- `oidc_http_outgoing_proxy_t`. -/
structure Proxy where
  hostPort : Option String := none
  usernamePassword : Option String := none
  /-- `none` for `OIDC_CONFIG_POS_INT_UNSET`. -/
  authType : Option Int := none

/-- The arguments of `oidc_http_request`, with what it reads from the incoming request and from the
configuration. -/
structure Call where
  /-- The number of the call, whose variables curl gets pointers to. -/
  frame : Nat
  url : Option String
  data : Option String := none
  contentType : Option String := none
  basicAuth : Option String := none
  accessToken : Option String := none
  dpop : Option String := none
  sslValidateServer : Bool := true
  /-- The headers that the caller wants, with the values they have so far. -/
  responseHdrs : List (String × String) := []
  timeout : Timeout := {}
  outgoingProxy : Proxy := {}
  passCookies : List String := []
  sslCert : Option String := none
  sslKey : Option String := none
  sslKeyPwd : Option String := none
  /-- The header `Cookie` of the incoming request. -/
  cookies : Option String := none
  /-- The header `traceparent` of the incoming request. -/
  traceparent : Option String := none
  /-- The variable `CURLOPT_SSL_OPTIONS`. -/
  sslOptions : Option String := none
  /-- `oidc_http_user_agent`. -/
  userAgent : String := ""
  /-- `oidc_http_interface`. -/
  interface : Option String := none
  caBundlePath : Option String := none
  /-- `OIDCTraceParent` is not `off`. -/
  traceParent : Bool := false

/-- An option that is set if there is something to set it to. -/
def optional (option : Opt) (value : Option String) : List (Opt × Value) :=
  value.toList.map fun text => (option, .text text)

/-- The names that may stand in `CURLOPT_SSL_OPTIONS`, in the order in which they are looked for. -/
def sslNames : List (String × Opt × Int) :=
  [("CURLSSLOPT_ALLOW_BEAST", .sslOptions, 1), ("CURLSSLOPT_NO_REVOKE", .sslOptions, 2),
    ("CURLSSLOPT_NO_PARTIALCHAIN", .sslOptions, 4),
    ("CURLSSLOPT_REVOKE_BEST_EFFORT", .sslOptions, 8), ("CURLSSLOPT_NATIVE_CA", .sslOptions, 16),
    ("CURL_SSLVERSION_TLSv1_0", .sslVersion, 4), ("CURL_SSLVERSION_TLSv1_1", .sslVersion, 5),
    ("CURL_SSLVERSION_TLSv1_2", .sslVersion, 6), ("CURL_SSLVERSION_TLSv1_3", .sslVersion, 7),
    ("CURL_SSLVERSION_MAX_TLSv1_0", .sslVersion, 4 * 65536),
    ("CURL_SSLVERSION_MAX_TLSv1_1", .sslVersion, 5 * 65536),
    ("CURL_SSLVERSION_MAX_TLSv1_2", .sslVersion, 6 * 65536),
    ("CURL_SSLVERSION_MAX_TLSv1_3", .sslVersion, 7 * 65536)]

/-- `oidc_http_set_curl_ssl_options`. -/
def setCurlSslOptions : Option String → List (Opt × Value)
  | none => []
  | some text =>
      (sslNames.filter fun name => (strstr name.1.toList text.toList).isSome).map
        fun name => (name.2.1, .long name.2.2)

/-- `oidc_http_request_setup_proxy`. -/
def setupProxy (proxy : Proxy) : List (Opt × Value) :=
  match proxy.hostPort with
  | none => []
  | some hostPort =>
      [(.proxy, .text hostPort)] ++ optional .proxyUserPwd proxy.usernamePassword ++
        proxy.authType.toList.map fun kind => (.proxyAuth, .long kind)

/-- `oidc_http_request_build_header_list`. -/
def buildHeaderList (call : Call) : List String :=
  (call.accessToken.toList.map fun token =>
    "Authorization: " ++ (if call.dpop.isSome then "DPoP" else "Bearer") ++ " " ++ token) ++
  (call.contentType.toList.map ("Content-Type: " ++ ·)) ++
  (if call.traceParent then call.traceparent.toList.map ("traceparent: " ++ ·) else []) ++
  call.dpop.toList.map ("DPoP: " ++ ·)

/-- `oidc_http_request_pass_cookies`. -/
def passCookies (call : Call) : List (Opt × Value) :=
  match call.passCookies.filterMap fun name =>
      (Http.getCookie call.cookies name).map fun value => name ++ "=" ++ value with
  | [] => []
  | found => [(.cookie, .text ("; ".intercalate found))]

/-- The options that every request has. -/
def fixedSettings (call : Call) : List (Opt × Value) :=
  [(.header, .long 0), (.noProgress, .long 1), (.noSignal, .long 1), (.tcpKeepalive, .long 1),
    (.errorBuffer, .variable call.frame), (.followLocation, .long 1), (.maxRedirs, .long 5),
    (.timeout, .long call.timeout.requestTimeout),
    (.connectTimeout, .long call.timeout.connectTimeout),
    (.writeFunction, .callback), (.writeData, .variable call.frame),
    (.headerFunction, .callback), (.headerData, .variable call.frame),
    (.redirProtocolsStr, .text "http,https"), (.protocolsStr, .text "http,https"),
    (.sslVerifyPeer, .long (if call.sslValidateServer then 1 else 0)),
    (.sslVerifyHost, .long (if call.sslValidateServer then 2 else 0))]

/-- The options with credentials. -/
def authSettings (basicAuth : String) : List (Opt × Value) :=
  [(.httpAuth, .long 1), (.userPwd, .text basicAuth)]

/-- The options with what is posted. -/
def postSettings (data : String) : List (Opt × Value) :=
  [(.postFields, .text data), (.post, .long 1)]

/-- The option with the header lines, if there are any. -/
def headerSettings (call : Call) : List (Opt × Value) :=
  if buildHeaderList call = [] then [] else [(.httpHeader, .lines (buildHeaderList call))]

/-- All options that `oidc_http_request` sets, in their order. -/
def settings (call : Call) (url : String) : List (Opt × Value) :=
  fixedSettings call ++ setCurlSslOptions call.sslOptions ++ optional .caInfo call.caBundlePath ++
  optional .userAgent (if call.userAgent = "" then none else some call.userAgent) ++
  optional .interface (if call.interface = some "" then none else call.interface) ++
  setupProxy call.outgoingProxy ++ call.basicAuth.toList.flatMap authSettings ++
  optional .sslCert call.sslCert ++ optional .sslKey call.sslKey ++
  optional .keyPasswd call.sslKeyPwd ++ call.data.toList.flatMap postSettings ++
  headerSettings call ++ passCookies call ++ [(Opt.url, Value.text url)]

/-! ## What comes back -/

/-- What `curl_easy_perform` returns. -/
inductive Code
  | ok
  | timedOut
  | other
  deriving DecidableEq, Repr

/-- What curl gets from a server: the header lines and the pieces of the body that it calls the
callbacks with, and what it returns if these take everything. -/
structure Transfer where
  headers : List (List Char) := []
  body : List (List UInt8) := []
  code : Code
  deriving DecidableEq

/-- `OIDC_CURL_RESPONSE_DATA_SIZE_MAX`. -/
def responseDataSizeMax : Nat := 1024 * 1024 * 10

/-- The variables of a call that the callbacks write to. -/
structure Received where
  /-- The `memory` of `oidc_curl_resp_data_ctx_t`, with its size. -/
  memory : Option (List UInt8) := none
  hdrs : List (String × String)
  deriving DecidableEq

/-- The bytes of the body so far. -/
def Received.bytes (received : Received) : List UInt8 := received.memory.getD []

/-- `oidc_http_response_data`: it takes a piece of the body, or refuses it. -/
def responseData (received : Received) (contents : List UInt8) : Option Received :=
  if responseDataSizeMax < received.bytes.length + contents.length then none
  else some { received with memory := some (received.bytes ++ contents) }

/-- The value of a header line behind its colon. -/
def headerValue (rest : List Char) : String :=
  String.ofList ((rest.dropWhile (· = ' ')).rdropWhile fun c => c = '\r' || c = '\n')

/-- `oidc_http_response_header`, for a line without null characters and a table of headers in the
order of the hash. The comparison is that of `_oidc_strnatcasecmp`. -/
def responseHeader (sameName : String → String → Bool) (hdrs : List (String × String))
    (line : List Char) : List (String × String) :=
  match line.dropWhile (· ≠ ':') with
  | [] => hdrs
  | _ :: rest =>
      match hdrs.findIdx? fun hdr => sameName (String.ofList (line.takeWhile (· ≠ ':'))) hdr.1 with
      | none => hdrs
      | some i => hdrs.modify i fun hdr => (hdr.1, headerValue rest)

/-- Curl calls back with one piece after the other, until one is refused. -/
def deliver : List (List UInt8) → Received → Received × Bool
  | [], received => (received, true)
  | contents :: rest, received =>
      match responseData received contents with
      | none => (received, false)
      | some received => deliver rest received

/-- What a transfer leaves in the variables of a call, and what `curl_easy_perform` returns. A write
callback that refuses a piece ends the transfer with an error. -/
def receive (sameName : String → String → Bool) (transfer : Transfer) (received : Received) :
    Received × Code :=
  let received :=
    { received with hdrs := transfer.headers.foldl (responseHeader sameName) received.hdrs }
  let (received, complete) := deliver transfer.body received
  (received, if complete then transfer.code else .other)

/-! ## Operations -/

/-- What a thread does on its way. -/
inductive Op
  /-- `oidc_http_curl_pool_lock`. -/
  | lock
  /-- `oidc_http_curl_pool_unlock`. -/
  | unlock
  /-- Read `_oidc_http_curl_pool_num`. -/
  | num
  /-- `_oidc_http_curl_pool[--_oidc_http_curl_pool_num]`. -/
  | pop
  /-- `_oidc_http_curl_pool[_oidc_http_curl_pool_num++] = ...`. -/
  | push (handle : Handle)
  /-- `curl_easy_init`. -/
  | easyInit
  /-- `curl_easy_setopt`. -/
  | setopt (handle : Handle) (option : Opt) (value : Value)
  /-- `curl_easy_perform`, on behalf of a call. -/
  | perform (handle : Handle) (call : Call)
  /-- `curl_easy_getinfo` for the response code. -/
  | responseCode (handle : Handle)
  /-- `curl_easy_reset`. -/
  | reset (handle : Handle)
  /-- `curl_easy_cleanup`. -/
  | cleanup (handle : Handle)
  /-- `apr_sleep`. -/
  | sleep

/-- What an operation returns. -/
abbrev Answer : Op → Type
  | .num => Nat
  | .pop => Handle
  | .easyInit => Option Handle
  | .setopt _ _ _ => Bool
  | .perform _ _ => Transfer
  | .responseCode _ => Int
  | .lock | .unlock | .push _ | .reset _ | .cleanup _ | .sleep => Unit

/-- Programs on handles. -/
abbrev Prog := Program Op Answer

/-- Perform one operation. -/
abbrev run (op : Op) : Prog (Answer op) := Program.call op

/-! ## The pool -/

/-- `OIDC_HTTP_CURL_POOL_MAX`. -/
def poolMax : Nat := 16

/-- Take a handle off the pool, if it has one. -/
def takeOff : Prog (Option Handle) := do
  run .lock
  let handle ← (do
    if 0 < (← run .num) then
      let handle ← run .pop
      pure (some handle)
    else pure none)
  run .unlock
  pure handle

/-- `oidc_http_curl_acquire`. -/
def acquire (enabled : Bool) : Prog (Option Handle) := do
  if enabled = false then run .easyInit
  else
    match ← takeOff with
    | some handle => pure (some handle)
    | none => run .easyInit

/-- Put a handle into the pool, if it has room: whether it did. -/
def putBack (handle : Handle) : Prog Bool := do
  run (.reset handle)
  run .lock
  let pooled ← (do
    if (← run .num) < poolMax then
      run (.push handle)
      pure true
    else pure false)
  run .unlock
  pure pooled

/-- `oidc_http_curl_release`, for a handle that is there. -/
def release (enabled : Bool) (handle : Handle) (reuse : Bool) : Prog Unit := do
  let pooled ← (if reuse = true ∧ enabled = true then putBack handle else pure false)
  if pooled then pure () else run (.cleanup handle)

/-! ## A request -/

/-- Set options one after the other. Where this fails, it is only logged. -/
def setOptions (handle : Handle) : List (Opt × Value) → Prog Unit
  | [] => pure ()
  | (option, value) :: rest => do
      let _ ← run (.setopt handle option value)
      setOptions handle rest

/-- `oidc_http_request_perform_with_retries`, with some number of tries left: what was received,
unless all tries fail. -/
def performWithRetries (sameName : String → String → Bool) (handle : Handle) (call : Call) :
    Nat → Received → Prog (Option Received)
  | 0, _ => pure none
  | left + 1, received => do
      let transfer ← run (.perform handle call)
      let (received, code) := receive sameName transfer received
      match code with
      | .ok => pure (some received)
      | .timedOut => pure none
      | .other => do
          (if left = 0 then pure () else run .sleep)
          performWithRetries sameName handle call left received

/-- What a caller gets. -/
structure Response extends Received where
  code : Int

/-- The number of tries. -/
def tries (call : Call) : Nat := (call.timeout.retries + 1).toNat

/-- `oidc_http_request` when all tries are done. -/
def finish (enabled : Bool) (handle : Handle) : Option Received → Prog (Option Response)
  | none => do
      release enabled handle false
      pure none
  | some received => do
      let code ← run (.responseCode handle)
      release enabled handle true
      pure (some ⟨received, code⟩)

/-- `oidc_http_request` with a handle. -/
def requestWith (sameName : String → String → Bool) (enabled : Bool) (handle : Handle) (call : Call)
    (url : String) : Prog (Option Response) := do
  setOptions handle (settings call url)
  let result ← performWithRetries sameName handle call (tries call) { hdrs := call.responseHdrs }
  finish enabled handle result

/-- `oidc_http_request`: the response, unless it fails. -/
def request (sameName : String → String → Bool) (enabled : Bool) (call : Call) :
    Prog (Option Response) := do
  match call.url with
  | none => pure none
  | some url =>
      match ← acquire enabled with
      | none => pure none
      | some handle => requestWith sameName enabled handle call url

/-- What a thread does with outgoing requests: it may depend on earlier responses. -/
abbrev Client := Program Call fun _ => Option Response

/-- A thread with its requests. -/
def serve (sameName : String → String → Bool) (enabled : Bool) : Client Unit → Prog Unit
  | .done _ => pure ()
  | .perform call next => do
      let response ← request sameName enabled call
      serve sameName enabled (next response)

/-! ## Tries -/

/-- A transfer that is performed. -/
def transferred : Sigma Answer → Option Transfer
  | ⟨.perform _ _, transfer⟩ => some transfer
  | _ => none

/-- The transfers of a run. -/
def transfers (events : List (Sigma Answer)) : List Transfer := events.filterMap transferred

theorem transfers_append (first second : List (Sigma Answer)) :
    transfers (first ++ second) = transfers first ++ transfers second := List.filterMap_append ..

/-- A program that performs no transfer. -/
def Silent {α : Type} (program : Prog α) : Prop := program.Quiet transferred

theorem Silent.transfers_eq {α : Type} {program : Prog α} (silent : Silent program)
    {events : List (Sigma Answer)} {result : α} (run : program.Run events result) :
    transfers events = [] := silent events result run

theorem silent_run {op : Op} (other : ∀ handle call, op ≠ .perform handle call) :
    Silent (run op) := by
  apply Program.Quiet.call
  intro answer
  cases op with
  | perform handle call => exact absurd rfl (other handle call)
  | _ => rfl

theorem silent_takeOff : Silent takeOff := by
  refine .bind (silent_run (by simp)) fun _ => .bind ?_ fun handle => ?_
  · refine .bind (silent_run (by simp)) fun number => .ite ?_ (.pure none)
    exact .bind (silent_run (by simp)) fun handle => .pure _
  · exact .bind (silent_run (by simp)) fun _ => .pure handle

theorem silent_acquire (enabled : Bool) : Silent (acquire enabled) := by
  refine .ite (silent_run (by simp)) (.bind silent_takeOff fun handle => ?_)
  cases handle with
  | none => exact silent_run (by simp)
  | some handle => exact .pure _

theorem silent_putBack (handle : Handle) : Silent (putBack handle) := by
  refine .bind (silent_run (by simp)) fun _ => .bind (silent_run (by simp)) fun _ =>
    .bind ?_ fun pooled => .bind (silent_run (by simp)) fun _ => .pure pooled
  refine .bind (silent_run (by simp)) fun number => .ite ?_ (.pure false)
  exact .bind (silent_run (by simp)) fun _ => .pure true

theorem silent_release (enabled : Bool) (handle : Handle) (reuse : Bool) :
    Silent (release enabled handle reuse) := by
  refine .bind (.ite (silent_putBack handle) (.pure false)) fun pooled => ?_
  exact .ite (.pure ()) (silent_run (by simp))

theorem silent_setOptions (handle : Handle) (options : List (Opt × Value)) :
    Silent (setOptions handle options) := by
  induction options with
  | nil => exact .pure ()
  | cons option rest ih => exact .bind (silent_run (by simp)) fun _ => ih

/-- The callback takes all pieces, or those for which there is room. -/
theorem deliver_bytes (pieces : List (List UInt8)) {received : Received}
    (fits : received.bytes.length ≤ responseDataSizeMax) :
    ∃ kept, (deliver pieces received).1.bytes = received.bytes ++ kept ∧
      (deliver pieces received).1.bytes.length ≤ responseDataSizeMax ∧
      (deliver pieces received).1.hdrs = received.hdrs ∧
      ((deliver pieces received).2 = true ∧ kept = pieces.flatten ∨
        (deliver pieces received).2 = false ∧ kept <+: pieces.flatten ∧ kept ≠ pieces.flatten) := by
  induction pieces generalizing received with
  | nil => exact ⟨[], by simp [deliver], fits, rfl, .inl ⟨rfl, rfl⟩⟩
  | cons contents rest ih =>
      rw [deliver, responseData]
      by_cases large : responseDataSizeMax < received.bytes.length + contents.length
      · rw [if_pos large]
        refine ⟨[], by simp, fits, rfl, .inr ⟨rfl, List.nil_prefix, fun empty => ?_⟩⟩
        have nothing : contents = [] := List.append_eq_nil_iff.mp empty.symm |>.1
        rw [nothing, List.length_nil] at large
        omega
      · rw [if_neg large]
        have more : Received.bytes { received with memory := some (received.bytes ++ contents) } =
            received.bytes ++ contents := rfl
        have room : (received.bytes ++ contents).length ≤ responseDataSizeMax := by
          rw [List.length_append]
          omega
        obtain ⟨kept, bytes, fits', hdrs, complete⟩ := ih (more ▸ room)
        refine ⟨contents ++ kept, ?_, fits', hdrs, ?_⟩
        · rw [bytes, more, List.append_assoc]
        · rw [List.flatten_cons]
          rcases complete with ⟨all, rfl⟩ | ⟨some, front, short⟩
          · exact .inl ⟨all, rfl⟩
          · refine .inr ⟨some, (List.prefix_append_right_inj contents).mpr front, fun same => ?_⟩
            exact short (List.append_cancel_left same)

/-- A try that failed, with what it left in the buffer: all that it got, or what there was room for.
-/
def Failed (transfer : Transfer) (kept : List UInt8) : Prop :=
  transfer.code = .other ∧ kept = transfer.body.flatten ∨
    kept <+: transfer.body.flatten ∧ kept ≠ transfer.body.flatten

/-- What a transfer leaves in the buffer, by what `curl_easy_perform` returns. -/
def Ends (transfer : Transfer) (kept : List UInt8) : Code → Prop
  | .ok => transfer.code = .ok ∧ kept = transfer.body.flatten
  | .timedOut => transfer.code = .timedOut
  | .other => Failed transfer kept

/-- What a transfer leaves in the buffer is behind what was there before. -/
theorem receive_cases (sameName : String → String → Bool) (transfer : Transfer)
    {received : Received}
    (fits : received.bytes.length ≤ responseDataSizeMax) :
    ∃ kept, (receive sameName transfer received).1.bytes = received.bytes ++ kept ∧
      (receive sameName transfer received).1.bytes.length ≤ responseDataSizeMax ∧
      (receive sameName transfer received).1.hdrs =
        transfer.headers.foldl (responseHeader sameName) received.hdrs ∧
      Ends transfer kept (receive sameName transfer received).2 := by
  obtain ⟨kept, bytes, fits', hdrs, complete⟩ := @deliver_bytes transfer.body
    { received with hdrs := transfer.headers.foldl (responseHeader sameName) received.hdrs } fits
  refine ⟨kept, bytes, fits', hdrs, ?_⟩
  rw [receive]
  dsimp only
  rcases complete with ⟨all, rfl⟩ | ⟨some, short⟩
  · rw [all, if_pos rfl]
    cases code : transfer.code with
    | ok => exact ⟨code, rfl⟩
    | timedOut => exact code
    | other => exact .inl ⟨code, rfl⟩
  · rw [some, if_neg (by simp)]
    exact .inr short

/-- Tries, of which there are some number at most, one after the other: all but the last failed. If
the last one got a response, then this is behind what the failed ones left in the buffer. -/
def Tried (sameName : String → String → Bool) (most : Nat) (received : Received)
    (transfers : List Transfer) : Option Received → Prop
  | some result => ∃ failed kept last, transfers = failed ++ [last] ∧ failed.length < most ∧
      List.Forall₂ Failed failed kept ∧ last.code = .ok ∧
      result.bytes = received.bytes ++ kept.flatten ++ last.body.flatten ∧
      result.bytes.length ≤ responseDataSizeMax ∧
      result.hdrs = (transfers.flatMap (·.headers)).foldl (responseHeader sameName) received.hdrs
  | none => ∃ failed kept, List.Forall₂ Failed failed kept ∧
      (transfers = failed ∧ failed.length = most ∨
        ∃ last, transfers = failed ++ [last] ∧ failed.length < most ∧ last.code = .timedOut)

/-- The tries of a request, by induction on their number. -/
theorem performWithRetries_tried (sameName : String → String → Bool) {handle : Handle} {call : Call}
    (left : Nat) {received : Received} (fits : received.bytes.length ≤ responseDataSizeMax)
    {events : List (Sigma Answer)} {result : Option Received}
    (run : (performWithRetries sameName handle call left received).Run events result) :
    Tried sameName left received (transfers events) result := by
  induction left generalizing received events with
  | zero =>
      obtain ⟨rfl, rfl⟩ := Program.run_pure run
      exact ⟨[], [], .nil, .inl ⟨rfl, rfl⟩⟩
  | succ left ih =>
      obtain ⟨_, transfer, after, rfl, first, second⟩ := Program.run_bind.mp run
      obtain rfl := Program.run_call first
      obtain ⟨kept, bytes, fits', hdrs, code⟩ := receive_cases sameName transfer fits
      rw [transfers_append, show transfers [⟨.perform handle call, transfer⟩] = [transfer] from rfl]
      rcases outcome : receive sameName transfer received with ⟨received', status⟩
      rw [outcome] at second bytes fits' hdrs code
      cases status with
      | ok =>
          obtain ⟨rfl, rfl⟩ := Program.run_pure second
          obtain ⟨good, rfl⟩ := code
          refine ⟨[], [], transfer, rfl, Nat.succ_pos left, .nil, good, ?_, fits', ?_⟩
          · simpa using bytes
          · simpa [transfers] using hdrs
      | timedOut =>
          obtain ⟨rfl, rfl⟩ := Program.run_pure second
          exact ⟨[], [], .nil, .inr ⟨transfer, rfl, Nat.succ_pos left, code⟩⟩
      | other =>
          obtain ⟨waiting, _, again, rfl, third, fourth⟩ := Program.run_bind.mp second
          have silent : Silent (if left = 0 then pure () else Curl.run .sleep) :=
            .ite (.pure ()) (silent_run (by simp))
          rw [transfers_append, silent.transfers_eq third, List.nil_append]
          have tried := ih fits' fourth
          cases result with
          | none =>
              obtain ⟨failed, kepts, fails, ends⟩ := tried
              refine ⟨transfer :: failed, kept :: kepts, .cons code fails, ?_⟩
              rcases ends with ⟨rfl, length⟩ | ⟨last, all, few, late⟩
              · exact .inl ⟨rfl, congrArg (· + 1) length⟩
              · exact .inr ⟨last, congrArg (transfer :: ·) all, Nat.succ_lt_succ few, late⟩
          | some result =>
              obtain ⟨failed, kepts, last, all, few, fails, good, found, fits'', names⟩ := tried
              refine ⟨transfer :: failed, kept :: kepts, last, congrArg (transfer :: ·) all,
                Nat.succ_lt_succ few, .cons code fails, good, ?_, fits'', ?_⟩
              · rw [found, bytes, List.flatten_cons]
                simp only [List.append_assoc]
              · rw [names, hdrs, ← List.foldl_append]
                rfl

theorem setOptions_run (handle : Handle) (options : List (Opt × Value)) :
    ∃ events, (setOptions handle options).Run events () := by
  induction options with
  | nil => exact ⟨[], .done ()⟩
  | cons option rest ih =>
      obtain ⟨events, run⟩ := ih
      exact ⟨_, .perform true run⟩

/-- A call with the default number of retries. -/
def plainCall : Call := { frame := 0, url := some "u" }

/-- Its first try fails in the middle of the body. -/
def cutOff : List (Sigma Answer) :=
  [⟨.perform 0 plainCall, { body := [[1, 2]], code := .other }⟩, ⟨.sleep, ()⟩,
    ⟨.perform 0 plainCall, { body := [[1, 2], [3]], code := .ok }⟩, ⟨.responseCode 0, 200⟩,
    ⟨.cleanup 0, ()⟩]

end Curl

end ModAuthOpenidc
