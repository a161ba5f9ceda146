import ModAuthOpenidc.Session.Store

/-!
# Session attributes

The second half of `src/session.c`: the members of the session state under their short keys, and the
filters that decide which claims of an id_token or of a userinfo response are kept.  All writes go
through one function, so one lemma says what every other member looks like afterwards.
-/

namespace ModAuthOpenidc

namespace Session

/-! ## Reading and writing members -/

/-- `oidc_session_json_set`: a missing value deletes the member. -/
def jsonSet (z : Session) (key : String) (value : Option Json) : Session :=
  match value with
  | some value => { z with state := some (Object.set (z.state.getD []) key value) }
  | none => { z with state := z.state.map fun state => state.del key }

/-- `oidc_session_json_get`. -/
def jsonGet (z : Session) (key : String) : Option Json := z.state.bind fun state => state.get key

/-- `oidc_session_set`. -/
def setText (z : Session) (key : String) (value : Option String) : Session :=
  z.jsonSet key (value.map .str)

/-- `oidc_session_get`. -/
def getText (z : Session) (key : String) : Option String := (z.jsonGet key).bind Json.stringValue

/-- `oidc_session_set_int`. -/
def setInt (z : Session) (key : String) (value : Int) : Session := z.jsonSet key (some (.int value))

/-- `oidc_session_get_int`. -/
def getInt (z : Session) (key : String) (default : Int) : Int :=
  Object.getInt (z.state.getD []) key default

/-- `oidc_session_set_timestamp`: whole seconds, nothing for a negative time. -/
def setTimestamp (z : Session) (key : String) (timestamp : Int) : Session :=
  if timestamp ≤ -1 then z else z.jsonSet key (some (.int (timestamp / 1000000)))

/-- `oidc_session_get_key2timestamp`. -/
def getTimestamp (z : Session) (key : String) : Int := key2timestamp (z.state.getD []) key

/-- A write changes the answer for its own key only. -/
theorem jsonGet_jsonSet (z : Session) (key other : String) (value : Option Json) :
    (z.jsonSet key value).jsonGet other = if other = key then value else z.jsonGet other := by
  cases value with
  | some value =>
      rw [jsonGet, jsonSet, Option.bind_some, Object.get_set]
      cases stored : z.state with
      | none => rw [jsonGet, stored, Option.getD_none, Object.get_nil, Option.bind_none]
      | some state => rw [jsonGet, stored, Option.getD_some, Option.bind_some]
  | none =>
      rw [jsonGet, jsonSet, jsonGet]
      cases z.state with
      | none => split <;> rfl
      | some state => exact Object.get_del state key other

theorem jsonGet_jsonSet_of_ne (z : Session) {key other : String} (value : Option Json)
    (different : other ≠ key) : (z.jsonSet key value).jsonGet other = z.jsonGet other := by
  rw [jsonGet_jsonSet, if_neg different]

theorem getText_setText_self (z : Session) (key : String) (value : Option String) :
    (z.setText key value).getText key = value := by
  rw [getText, setText, jsonGet_jsonSet, if_pos rfl]
  cases value <;> rfl

/-! ## Frames -/

/-- One session becomes another by writes to members with certain keys. -/
structure Writes (keys : List String) (z z' : Session) : Prop where
  same : z' = { z with state := z'.state }
  frame : ∀ key, key ∉ keys → z'.jsonGet key = z.jsonGet key

namespace Writes

variable {keys more : List String} {z z' z'' : Session} {key : String}

theorem refl (keys : List String) (z : Session) : Writes keys z z := ⟨rfl, fun _ _ => rfl⟩

theorem trans (first : Writes keys z z') (second : Writes keys z' z'') : Writes keys z z'' := by
  refine ⟨?_, fun key outside => (second.frame key outside).trans (first.frame key outside)⟩
  rw [second.same, first.same]

theorem mono (writes : Writes keys z z') (included : keys ⊆ more) : Writes more z z' :=
  ⟨writes.same, fun key outside => writes.frame key fun member => outside (included member)⟩

theorem remoteUser (writes : Writes keys z z') : z'.remoteUser = z.remoteUser := by
  rw [writes.same]

theorem getText (writes : Writes keys z z') (outside : key ∉ keys) :
    z'.getText key = z.getText key := by
  rw [Session.getText, writes.frame key outside, Session.getText]

theorem jsonSet (writes : Writes keys z z') (key : String) (value : Option Json)
    (member : key ∈ keys := by decide) :
    Writes keys z (z'.jsonSet key value) := by
  refine writes.trans ⟨by cases value <;> rfl, fun other outside => ?_⟩
  exact jsonGet_jsonSet_of_ne z' value fun same => outside (same ▸ member)

theorem setText (writes : Writes keys z z') (key : String) (value : Option String)
    (member : key ∈ keys := by decide) : Writes keys z (z'.setText key value) :=
  writes.jsonSet key _ member

theorem setTimestamp (writes : Writes keys z z') (key : String) (timestamp : Int)
    (member : key ∈ keys := by decide) : Writes keys z (z'.setTimestamp key timestamp) := by
  unfold Session.setTimestamp
  split
  · exact writes
  · exact writes.jsonSet key _ member

theorem ite (condition : Prop) [Decidable condition] (first : Writes keys z z')
    (second : Writes keys z z'') : Writes keys z (if condition then z' else z'') := by
  split
  · exact first
  · exact second

end Writes

/-! ## The attributes -/

/-- `oidc_session_set_idtoken`. -/
def setIdtoken (z : Session) (idToken : Option String) : Session := z.setText "idt" idToken

/-- `oidc_session_get_idtoken`. -/
def getIdtoken (z : Session) : Option String := z.getText "idt"

/-- `oidc_session_set_access_token`. -/
def setAccessToken (z : Session) (accessToken : Option String) : Session :=
  z.setText "at" accessToken

/-- `oidc_session_get_access_token`. -/
def getAccessToken (z : Session) : Option String := z.getText "at"

/-- `oidc_session_set_access_token_type`. -/
def setAccessTokenType (z : Session) (tokenType : Option String) : Session :=
  z.setText "att" tokenType

/-- `oidc_session_get_access_token_type`. -/
def getAccessTokenType (z : Session) : Option String := z.getText "att"

/-- `oidc_session_set_access_token_expires`: nothing for an unknown lifetime. -/
def setAccessTokenExpires (z : Session) (now expiresIn : Int) : Session :=
  if -1 < expiresIn then z.setTimestamp "ate" (now + expiresIn * 1000000) else z

/-- `oidc_session_get_access_token_expires`. -/
def getAccessTokenExpires (z : Session) : Int := z.getTimestamp "ate"

/-- `oidc_session_set_refresh_token`. -/
def setRefreshToken (z : Session) (refreshToken : Option String) : Session :=
  z.setText "rt" refreshToken

/-- `oidc_session_get_refresh_token`. -/
def getRefreshToken (z : Session) : Option String := z.getText "rt"

/-- `oidc_session_set_session_expires`. -/
def setSessionExpires (z : Session) (expires : Int) : Session := z.setTimestamp "se" expires

/-- `oidc_session_get_session_expires`. -/
def getSessionExpires (z : Session) : Int := z.getTimestamp "se"

/-- `oidc_session_set_cookie_domain`. -/
def setCookieDomain (z : Session) (domain : Option String) : Session := z.setText "cd" domain

/-- `oidc_session_get_cookie_domain`. -/
def getCookieDomain (z : Session) : Option String := z.getText "cd"

/-- `oidc_session_set_userinfo_refresh_interval`. -/
def setUserinfoRefreshInterval (z : Session) (interval : Int) : Session := z.setInt "uir" interval

/-- `oidc_session_get_userinfo_refresh_interval`. -/
def getUserinfoRefreshInterval (z : Session) : Int := z.getInt "uir" (-1)

/-- `oidc_session_reset_userinfo_last_refresh`. -/
def resetUserinfoLastRefresh (z : Session) (now : Int) : Session := z.setTimestamp "uilr" now

/-- `oidc_session_get_userinfo_last_refresh`. -/
def getUserinfoLastRefresh (z : Session) : Int := z.getTimestamp "uilr"

/-- `oidc_session_set_access_token_last_refresh`. -/
def setAccessTokenLastRefresh (z : Session) (ts : Int) : Session := z.setTimestamp "atlr" ts

/-- `oidc_session_get_access_token_last_refresh`. -/
def getAccessTokenLastRefresh (z : Session) : Int := z.getTimestamp "atlr"

/-- `oidc_session_set_request_state`. -/
def setRequestState (z : Session) (state : Option String) : Session := z.setText "rs" state

/-- `oidc_session_set_original_url`. -/
def setOriginalUrl (z : Session) (url : Option String) : Session := z.setText "ou" url

/-- `oidc_session_set_session_state`. -/
def setSessionState (z : Session) (state : Option String) : Session := z.setText "ss" state

/-- `oidc_session_set_issuer`. -/
def setIssuer (z : Session) (issuer : Option String) : Session := z.setText "iss" issuer

/-- `oidc_session_get_issuer`. -/
def getIssuer (z : Session) : Option String := z.getText "iss"

/-- `oidc_session_set_scope`. -/
def setScope (z : Session) (scope : Option String) : Session := z.setText "scp" scope

/-- `oidc_session_set_session_new`. -/
def setSessionNew (z : Session) (isNew : Bool) : Session :=
  jsonSet { z with state := some (z.state.getD []) } "sn" (if isNew then some (.int 1) else none)

/-- `oidc_session_get_session_new`. -/
def getSessionNew (z : Session) : Bool := z.getInt "sn" 0 ≠ 0

theorem Writes.setSessionNew {keys : List String} {z z' : Session} (writes : Writes keys z z')
    (isNew : Bool) (member : "sn" ∈ keys := by decide) :
    Writes keys z (z'.setSessionNew isNew) := by
  have opened : Writes keys z { z' with state := some (z'.state.getD []) } := by
    refine writes.trans ⟨rfl, fun key _ => ?_⟩
    rw [jsonGet, jsonGet]
    cases z'.state <;> rfl
  exact opened.jsonSet "sn" _ member

/-- `oidc_session_set_userinfo_jwt`. -/
def setUserinfoJwt (z : Session) (jwt : Option String) : Session := z.setText "uij" jwt

/-! ## Filtered claims -/

/-- The settings that select claims. -/
structure ClaimFilter where
  /-- `OIDCBlackListedClaims`. -/
  blackListed : Option (List String) := none
  /-- `OIDCWhiteListedClaims`. -/
  whiteListed : Option (List String) := none
  /-- `OIDCFilterClaimsExpr`: what `libjq` makes of the claims that are left, if it is an object. -/
  jq : Option (Option Object → Option Object) := none

namespace ClaimFilter

/-- `oidc_session_claim_is_allowed`. -/
def isAllowed (filter : ClaimFilter) (name : String) : Bool :=
  filter.blackListed.all (fun names => name ∉ names) &&
    filter.whiteListed.all fun names => name ∈ names

/-- The claims that `oidc_session_set_filtered_claims` stores. -/
def apply (filter : ClaimFilter) (claims : Option Object) : Option Object :=
  let kept := claims.map fun claims => claims.filter fun member => filter.isAllowed member.1
  match filter.jq with
  | none => kept
  | some jq => jq kept

/-- The filter lets the subject through. -/
structure KeepsSub (filter : ClaimFilter) : Prop where
  allowed : filter.isAllowed "sub" = true
  jq : ∀ jq, filter.jq = some jq → ∀ claims, ∃ kept,
    jq (some claims) = some kept ∧ kept.getString "sub" = claims.getString "sub"

theorem get_filter (filter : ClaimFilter) (claims : Object) {name : String}
    (allowed : filter.isAllowed name = true) :
    Object.get (claims.filter fun member => filter.isAllowed member.1) name = claims.get name := by
  rw [Object.get, Object.get, KeyedList.lookup, KeyedList.lookup, List.find?_filter]
  congr 2
  funext member
  by_cases same : member.1 = name
  · simp [same, allowed]
  · simp [same]

theorem KeepsSub.apply {filter : ClaimFilter} (keeps : filter.KeepsSub) (claims : Object) :
    ∃ kept, filter.apply (some claims) = some kept ∧
      kept.getString "sub" = claims.getString "sub" := by
  unfold ClaimFilter.apply
  cases chosen : filter.jq with
  | none =>
      refine ⟨_, rfl, ?_⟩
      rw [Object.getString, get_filter filter claims keeps.allowed, Object.getString]
  | some jq =>
      obtain ⟨kept, stored, same⟩ := keeps.jq jq chosen
        (claims.filter fun member => filter.isAllowed member.1)
      refine ⟨kept, stored, ?_⟩
      rw [same, Object.getString, get_filter filter claims keeps.allowed, Object.getString]

end ClaimFilter

/-- `oidc_session_set_filtered_claims`. -/
def setFilteredClaims (z : Session) (filter : ClaimFilter) (key : String) (claims : Option Object) :
    Session :=
  z.jsonSet key ((filter.apply claims).map .obj)

/-- `oidc_session_set_userinfo_claims`. -/
def setUserinfoClaims (z : Session) (filter : ClaimFilter) (claims : Option Object) : Session :=
  z.setFilteredClaims filter "uic" claims

/-- `oidc_session_set_idtoken_claims`, unless `OIDC_DONT_STORE_ID_TOKEN_CLAIMS_IN_SESSION` is set.
-/
def setIdtokenClaims (z : Session) (filter : ClaimFilter) (dontStore : Bool) (claims : Object) :
    Session :=
  if dontStore then z else z.setFilteredClaims filter "idc" (some claims)

/-- `oidc_session_get_idtoken_claims`. -/
def getIdtokenClaims (z : Session) : Option Json := z.jsonGet "idc"

/-- The subject that a stored claims object names. -/
def claimsSub (claims : Option Json) : Option String :=
  match claims with
  | some (.obj claims) => Object.getString claims "sub"
  | _ => none

/-- The subject among the stored id_token claims. -/
def idtokenSub (z : Session) : Option String := claimsSub z.getIdtokenClaims

theorem Writes.idtokenSub {keys : List String} {z z' : Session} (writes : Writes keys z z')
    (outside : "idc" ∉ keys) : z'.idtokenSub = z.idtokenSub := by
  rw [Session.idtokenSub, getIdtokenClaims, writes.frame "idc" outside, Session.idtokenSub,
    getIdtokenClaims]

/-- A filter that keeps the subject stores that of the id_token. -/
theorem idtokenSub_setIdtokenClaims {filter : ClaimFilter} (keeps : filter.KeepsSub) (z : Session)
    (claims : Object) : (z.setIdtokenClaims filter false claims).idtokenSub =
    claims.getString "sub" := by
  obtain ⟨kept, stored, same⟩ := keeps.apply claims
  rw [Session.idtokenSub, getIdtokenClaims, setIdtokenClaims, if_neg (by simp), setFilteredClaims,
    jsonGet_jsonSet, if_pos rfl, stored]
  exact same

/-! ## Saving and loading -/

/-- The session that `oidc_session_extract` reads from a stored state. -/
def restored (state : Object) : Session :=
  { uuid := state.getString "i"
    remoteUser := state.getString "r"
    expiry := key2timestamp state "e"
    sid := state.getString "sid"
    sub := state.getString "sub"
    state := some state }

/-- A state that is intact and has not expired is restored. -/
theorem extract_restored (codec : Codec) (cfg : Config) (request : Request) (world : World)
    {z : Session} {state : Object} (stored : z.state = some state)
    (intact : claimsIntact state = true) (live : request.now ≤ key2timestamp state "e") :
    extract codec cfg request world z = (world, restored state, true) := by
  have current : ¬key2timestamp state "e" < request.now := Int.not_lt.mpr live
  simp only [extract, stored, intact, current, restored, Bool.true_eq_false, if_false]

theorem get_setMember (state : Object) (key other : String) (value : Option String) :
    (setMember state key value).get other = if other = key then value.map .str
    else state.get other := by
  cases value with
  | none => exact Object.get_del state key other
  | some text => exact Object.get_set state key other (.str text)

theorem get_setMember_of_ne (state : Object) {key other : String} (value : Option String)
    (different : other ≠ key) : (setMember state key value).get other = state.get other := by
  rw [get_setMember, if_neg different]

/-- The keys that a save writes itself. -/
def savedKeys : List String := ["v", "r", "e", "i", "sid", "sub"]

theorem ne_of_notMem_savedKeys {key : String} (outside : key ∉ savedKeys) :
    key ≠ "v" ∧ key ≠ "r" ∧ key ≠ "e" ∧ key ≠ "i" ∧ key ≠ "sid" ∧ key ≠ "sub" := by
  simpa [savedKeys] using outside

/-- The stamp leaves the index keys and all other members alone. -/
theorem get_stamp_of_ne (z : Session) (state : Object) {key : String} (version : key ≠ "v")
    (user : key ≠ "r") (expiry : key ≠ "e") (uuid : key ≠ "i") :
    (stamp z state).get key = state.get key := by
  unfold stamp
  rw [get_setMember_of_ne _ _ uuid]
  split
  · rw [get_setMember_of_ne _ _ user, Object.get_set_of_ne _ _ version]
  · rw [Object.get_set_of_ne _ _ expiry, get_setMember_of_ne _ _ user,
      Object.get_set_of_ne _ _ version]

theorem get_stamp (z : Session) (state : Object) {key : String} (outside : key ∉ savedKeys) :
    (stamp z state).get key = state.get key := by
  obtain ⟨version, user, expiry, uuid, -, -⟩ := ne_of_notMem_savedKeys outside
  exact get_stamp_of_ne z state version user expiry uuid

theorem getString_stamp_user (z : Session) (state : Object) :
    (stamp z state).getString "r" = z.remoteUser := by
  have written : (stamp z state).get "r" = z.remoteUser.map .str := by
    unfold stamp
    rw [get_setMember_of_ne _ _ (by decide)]
    split
    · rw [get_setMember, if_pos rfl]
    · rw [Object.get_set_of_ne _ _ (by decide), get_setMember, if_pos rfl]
  rw [Object.getString, written]
  cases z.remoteUser <;> rfl

theorem get_saveIndex (request : Request) (world : World) (z : Session) (state : Object)
    {key other : String} (index : Option String) (different : other ≠ key) :
    (saveIndex request world z state key index).2.get other = state.get other := by
  cases index with
  | none => rfl
  | some text => exact Object.get_set_of_ne _ _ different

/-- The save of a session that is over leaves it so. -/
theorem save_empty (codec : Codec) (cfg : Config) (request : Request) (world : World) {z : Session}
    (firstTime : Bool) (empty : z.state = none) :
    (save codec cfg request world z firstTime).2.1.state = none := by
  unfold save
  rw [empty]
  cases cfg.sessionType with
  | clientCookie => rfl
  | serverCache =>
      simp only [Option.map_none, saveCache, reduceCtorEq, false_or]
      split <;> rfl

/-- A save stamps the state and may note the index keys in it. -/
theorem save_stamped (codec : Codec) (cfg : Config) (request : Request)
    (world : World) (z : Session)
    (firstTime : Bool) {state : Object} (held : z.state = some state) :
    ∃ saved, (save codec cfg request world z firstTime).2.1 = { z with state := some saved } ∧
      ∀ key, key ≠ "sid" → key ≠ "sub" → saved.get key = (stamp z state).get key := by
  have plain : ∃ saved, { z with state := some (stamp z state) } = { z with state := some saved } ∧
      ∀ key, key ≠ "sid" → key ≠ "sub" → saved.get key = (stamp z state).get key :=
    ⟨_, rfl, fun _ _ _ => rfl⟩
  have indexed (first second : World) :
      ∃ saved, { z with state := some (saveIndex request second z
          (saveIndex request first z (stamp z state) "sid" z.sid).2 "sub" z.sub).2 } =
          { z with state := some saved } ∧
        ∀ key, key ≠ "sid" → key ≠ "sub" → saved.get key = (stamp z state).get key := by
    refine ⟨_, rfl, fun key sid sub => ?_⟩
    rw [get_saveIndex _ _ _ _ _ sub, get_saveIndex _ _ _ _ _ sid]
  unfold save
  rw [held]
  cases cfg.sessionType with
  | clientCookie =>
      simp only [Option.map_some, true_or, if_true]
      exact plain
  | serverCache =>
      simp only [Option.map_some, saveCache, reduceCtorEq, false_or]
      split
      · split <;> exact indexed _ _
      · split
        · split <;> exact indexed _ _
        · split <;> exact indexed _ _

/-- The state that a save leaves behind. -/
theorem save_state (codec : Codec) (cfg : Config) (request : Request) (world : World) (z : Session)
    (firstTime : Bool) {state : Object} (held : z.state = some state) :
    ∃ saved, (save codec cfg request world z firstTime).2.1 = { z with state := some saved } ∧
      saved.getString "r" = z.remoteUser ∧
      ∀ key, key ∉ savedKeys → saved.get key = state.get key := by
  obtain ⟨saved, same, stamped⟩ := save_stamped codec cfg request world z firstTime held
  refine ⟨saved, same, ?_, fun key outside => ?_⟩
  · rw [Object.getString, stamped "r" (by decide) (by decide), ← Object.getString,
      getString_stamp_user]
  · obtain ⟨-, -, -, -, sid, sub⟩ := ne_of_notMem_savedKeys outside
    rw [stamped key sid sub, get_stamp z state outside]

end Session

end ModAuthOpenidc
