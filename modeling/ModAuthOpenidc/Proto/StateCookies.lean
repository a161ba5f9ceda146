import ModAuthOpenidc.Proto.StateBinding

/-!
# Housekeeping of state cookies

Every authorization request leaves a state cookie behind. `oidc_state_cookies_clean_expired` removes
those that can no longer be used and, if it is told to, the oldest ones above a maximum. A maximum
of zero stands for no limit, but the loop over the oldest cookies takes it for a number.
-/

namespace ModAuthOpenidc

namespace State

open Http

/-! ## What the cookies are -/

/-- The name and the value of a state cookie other than the current one. -/
def stateCookie (cfg : Config) (currentCookieName : Option String) (token : List Char) :
    Option (String × String) :=
  let cookie := token.dropWhile (· = ' ')
  if cfg.cookiePrefix.toList <+: cookie ∧ '=' ∈ cookie ∧
      currentCookieName ≠ some (String.ofList (cookie.takeWhile (· ≠ '='))) then
    some (String.ofList (cookie.takeWhile (· ≠ '=')),
        String.ofList (cookie.dropWhile (· ≠ '=')).tail)
  else none

/-- The state cookies of a header other than the current one. -/
def stateCookies (cfg : Config) (cookies currentCookieName : Option String) :
    List (String × String) :=
  (strtok ';' (cookies.getD "").toList).filterMap (stateCookie cfg currentCookieName)

/-- A cookie that can be decoded and whose time has not passed. -/
def validCookie (crypto : Crypto) (cfg : Config) (now : Int) (cookie : String × String) :
    Option ValidCookie :=
  (fromCookie crypto cookie.2).bind fun protoState =>
    if now ≤ getTimestamp protoState + cfg.timeout * 1000000 then
      some { name := cookie.1, timestamp := getTimestamp protoState }
    else none

/-- The cookies that are still valid. -/
def validCookies (crypto : Crypto) (cfg : Config) (now : Int)
    (cookies currentCookieName : Option String) : List ValidCookie :=
  (stateCookies cfg cookies currentCookieName).filterMap (validCookie crypto cfg now)

/-- The names of the cookies that cannot be decoded or whose time has passed. -/
def staleNames (crypto : Crypto) (cfg : Config) (now : Int)
    (cookies currentCookieName : Option String) : List String :=
  ((stateCookies cfg cookies currentCookieName).filter fun cookie =>
    validCookie crypto cfg now cookie = none).map Prod.fst

/-- The header that removes a cookie. -/
def removal (exchange : Exchange) (name : String) : SetCookie :=
  setCookie exchange.context name "" 0 (sameSiteNone exchange)

/-! ## What is promised -/

/-- A list of valid cookies is divided into deleted and kept ones. -/
structure Divides (valid deleted kept : List ValidCookie) : Prop where
  all : (deleted ++ kept).Perm valid
  order : kept.Sublist valid
  newest : ∀ old ∈ deleted, ∀ new ∈ kept, old.timestamp ≤ new.timestamp

/-- What the housekeeping promises of the headers and the number it returns. -/
structure Housekept (crypto : Crypto) (cfg : Config) (exchange : Exchange)
    (cookies currentCookieName : Option String) (deleteOldest : Bool)
    (result : List SetCookie × Int) : Prop where
  /-- Stale cookies are removed, and of the valid ones the oldest down to the maximum. -/
  divided : ∃ deleted kept,
    Divides (validCookies crypto cfg exchange.now cookies currentCookieName) deleted kept ∧
      result.1 = (staleNames crypto cfg exchange.now cookies currentCookieName ++
        deleted.map ValidCookie.name).map (removal exchange) ∧
      result.2 = kept.length ∧
      (if deleteOldest ∧ 0 < cfg.maxNumberOfCookies then
        (kept.length : Int) =
          min ((validCookies crypto cfg exchange.now cookies currentCookieName).length : Int)
            (cfg.maxNumberOfCookies - 1)
      else deleted = [])
  /-- Other cookies are left alone. -/
  spared : ∀ set ∈ result.1,
    cfg.cookiePrefix.toList <+: set.name.toList ∧ currentCookieName ≠ some set.name

/-! ## The loops -/

theorem takeOldest_eq_none {cookies : List ValidCookie} (empty : takeOldest cookies = none) :
    cookies = [] := by
  cases cookies with
  | nil => rfl
  | cons cookie rest =>
      rw [takeOldest] at empty
      split at empty
      · cases empty
      · split at empty <;> cases empty

/-- The oldest cookie is taken out of the list. -/
theorem takeOldest_divides {cookies others : List ValidCookie} {oldest : ValidCookie}
    (taken : takeOldest cookies = some (oldest, others)) : Divides cookies [oldest] others := by
  induction cookies generalizing oldest others with
  | nil => cases taken
  | cons cookie rest ih =>
      rw [takeOldest] at taken
      split at taken
      · rename_i empty
        cases taken
        rw [takeOldest_eq_none empty]
        exact ⟨List.Perm.refl _, List.nil_sublist _, by simp⟩
      · rename_i older remaining found
        have divides := ih found
        split at taken
        · rename_i earlier
          cases taken
          refine ⟨?_, divides.order.cons_cons cookie, ?_⟩
          · exact (List.Perm.swap cookie oldest remaining).trans (divides.all.cons cookie)
          · intro old isOld new member
            rw [List.mem_singleton.mp isOld]
            rcases List.mem_cons.mp member with rfl | later
            · exact earlier.le
            · exact divides.newest oldest List.mem_cons_self new later
        · rename_i notEarlier
          cases taken
          refine ⟨List.Perm.refl _, List.sublist_cons_self _ _, ?_⟩
          intro old isOld new member
          rw [List.mem_singleton.mp isOld]
          have first : cookie.timestamp ≤ older.timestamp := not_lt.mp notEarlier
          rcases List.mem_cons.mp (divides.all.symm.subset member) with rfl | later
          · exact first
          · exact first.trans (divides.newest older List.mem_cons_self new later)

theorem Divides.none (valid : List ValidCookie) : Divides valid [] valid :=
  ⟨List.Perm.refl _, List.Sublist.refl _, by simp⟩

/-- What is deleted from the rest is deleted after the oldest. -/
theorem Divides.cons {valid rest deleted kept : List ValidCookie} {oldest : ValidCookie}
    (first : Divides valid [oldest] rest) (later : Divides rest deleted kept) :
    Divides valid (oldest :: deleted) kept where
  all := (later.all.cons oldest).trans first.all
  order := later.order.trans first.order
  newest := by
    intro old member new kept
    rcases List.mem_cons.mp member with rfl | deleted
    · exact first.newest old List.mem_cons_self new (later.order.subset kept)
    · exact later.newest old deleted new kept

/-- The loop deletes as many of the oldest cookies as it has rounds, and counts down. -/
theorem cookiesDeleteOldest_spec (exchange : Exchange) (rounds : Nat) (number : Int)
    (cookies : List ValidCookie) :
    ∃ deleted kept, Divides cookies deleted kept ∧ kept.length = cookies.length - rounds ∧
      cookiesDeleteOldest exchange rounds number cookies =
        ((deleted.map ValidCookie.name).map (removal exchange), number - rounds) := by
  induction rounds generalizing number cookies with
  | zero =>
      refine ⟨[], cookies, Divides.none cookies, rfl, ?_⟩
      rw [cookiesDeleteOldest, Nat.cast_zero, Int.sub_zero]
      rfl
  | succ rounds ih =>
      have count : number - 1 - rounds = number - (rounds + 1 : Nat) := by
        push_cast
        omega
      rw [cookiesDeleteOldest]
      split
      · rename_i empty
        obtain ⟨deleted, kept, divides, length, same⟩ := ih (number - 1) []
        obtain rfl := takeOldest_eq_none empty
        refine ⟨deleted, kept, divides, ?_, ?_⟩
        · rw [length, List.length_nil, Nat.zero_sub, Nat.zero_sub]
        · rw [same, count]
      · rename_i oldest others taken
        have first := takeOldest_divides taken
        obtain ⟨deleted, kept, divides, length, same⟩ := ih (number - 1) others
        refine ⟨oldest :: deleted, kept, first.cons divides, ?_, ?_⟩
        · have total := first.all.length_eq
          rw [List.length_append, List.length_singleton] at total
          omega
        · rw [same, count]
          rfl

/-! ## The whole call -/

section Call

variable (crypto : Crypto) (cfg : Config) (exchange : Exchange) (cookies : Option String)
  (currentCookieName : Option String)

/-- One token of the header. -/
theorem cookiesParseToken_eq (token : List Char) :
    cookiesParseToken crypto cfg exchange token currentCookieName =
      match stateCookie cfg currentCookieName token with
      | none => ([], none)
      | some cookie =>
          match validCookie crypto cfg exchange.now cookie with
          | none => ([removal exchange cookie.1], none)
          | some valid => ([], some valid) := by
  rw [cookiesParseToken, stateCookie]
  set cookie := token.dropWhile (· = ' ')
  by_cases state : cfg.cookiePrefix.toList <+: cookie
  · rw [if_neg (by simpa using List.isPrefixOf_iff_prefix.mpr state)]
    cases rest : cookie.dropWhile (· ≠ '=') with
    | nil =>
        have absent : '=' ∉ cookie := by
          intro member
          have all := List.dropWhile_eq_nil_iff.mp rest '=' member
          exact absurd all (by decide)
        rw [if_neg (fun found => absent found.2.1)]
    | cons equal value =>
        have present : '=' ∈ cookie := by
          have head := List.head_dropWhile_not (fun c => decide (c ≠ '=')) (l := cookie)
            (by rw [rest]; exact List.cons_ne_nil _ _)
          simp only [rest, List.head_cons, decide_eq_false_iff_not, not_not] at head
          rw [← head]
          exact (List.dropWhile_sublist _).subset (by rw [rest]; exact List.mem_cons_self)
        dsimp only
        rw [cookiesProcessOne]
        by_cases current : currentCookieName = some (String.ofList (cookie.takeWhile (· ≠ '=')))
        · rw [if_pos current, if_neg (fun found => found.2.2 current)]
        · rw [if_neg current, if_pos ⟨state, present, current⟩]
          dsimp only [List.tail_cons]
          rw [validCookie]
          cases fromCookie crypto (String.ofList value) with
          | none => rfl
          | some protoState =>
              dsimp only [Option.bind_some]
              by_cases expired :
                  getTimestamp protoState + cfg.timeout * 1000000 < exchange.now
              · rw [if_pos expired, if_neg (not_le.mpr expired)]
                rfl
              · rw [if_neg expired, if_pos (not_lt.mp expired)]
  · rw [if_pos (Bool.eq_false_iff.mpr (mt List.isPrefixOf_iff_prefix.mp state)),
      if_neg (fun found => state found.1)]

/-- All tokens of the header. -/
theorem cookiesParseToken_all (tokens : List (List Char)) :
    (tokens.map fun token =>
        cookiesParseToken crypto cfg exchange token currentCookieName).flatMap Prod.fst =
      (((tokens.filterMap (stateCookie cfg currentCookieName)).filter fun cookie =>
        validCookie crypto cfg exchange.now cookie = none).map Prod.fst).map (removal exchange) ∧
    (tokens.map fun token =>
        cookiesParseToken crypto cfg exchange token currentCookieName).filterMap Prod.snd =
      (tokens.filterMap (stateCookie cfg currentCookieName)).filterMap
        (validCookie crypto cfg exchange.now) := by
  induction tokens with
  | nil => exact ⟨rfl, rfl⟩
  | cons token tokens ih =>
      obtain ⟨sets, valid⟩ := ih
      rw [List.map_cons, List.flatMap_cons, List.filterMap_cons, List.filterMap_cons,
        cookiesParseToken_eq]
      cases stateCookie cfg currentCookieName token with
      | none => exact ⟨sets, valid⟩
      | some cookie =>
          dsimp only
          rw [List.filter_cons, List.filterMap_cons]
          cases found : validCookie crypto cfg exchange.now cookie with
          | none =>
              dsimp only
              rw [sets, valid]
              exact ⟨rfl, rfl⟩
          | some kept =>
              dsimp only
              rw [sets, valid]
              exact ⟨rfl, rfl⟩

theorem stateCookie_spared {token : List Char} {cookie : String × String}
    (found : stateCookie cfg currentCookieName token = some cookie) :
    cfg.cookiePrefix.toList <+: cookie.1.toList ∧ currentCookieName ≠ some cookie.1 := by
  rw [stateCookie] at found
  split at found
  · rename_i state
    obtain ⟨⟨rest, front⟩, -, other⟩ := state
    cases found
    refine ⟨⟨rest.takeWhile (· ≠ '='), ?_⟩, other⟩
    rw [String.toList_ofList, ← front, List.takeWhile_append_of_pos]
    intro c member
    exact decide_eq_true fun equal => cfg.cookiePrefixOk.1 (equal ▸ member)
  · cases found

/-- Names that are removed are those of state cookies other than the current one. -/
theorem mem_stateCookies_spared {cookie : String × String}
    (member : cookie ∈ stateCookies cfg cookies currentCookieName) :
    cfg.cookiePrefix.toList <+: cookie.1.toList ∧ currentCookieName ≠ some cookie.1 := by
  obtain ⟨token, -, found⟩ := List.mem_filterMap.mp member
  exact stateCookie_spared cfg currentCookieName found

theorem staleNames_spared {name : String}
    (member : name ∈ staleNames crypto cfg exchange.now cookies currentCookieName) :
    cfg.cookiePrefix.toList <+: name.toList ∧ currentCookieName ≠ some name := by
  obtain ⟨cookie, stale, rfl⟩ := List.mem_map.mp member
  exact mem_stateCookies_spared cfg cookies currentCookieName (List.mem_filter.mp stale).1

theorem validCookies_spared {cookie : ValidCookie}
    (member : cookie ∈ validCookies crypto cfg exchange.now cookies currentCookieName) :
    cfg.cookiePrefix.toList <+: cookie.name.toList ∧ currentCookieName ≠ some cookie.name := by
  obtain ⟨sent, state, valid⟩ := List.mem_filterMap.mp member
  obtain ⟨protoState, -, kept⟩ := Option.bind_eq_some_iff.mp valid
  split at kept
  · cases kept
    exact mem_stateCookies_spared cfg cookies currentCookieName state
  · cases kept

/-- The headers remove the stale cookies and the oldest of the valid ones. -/
theorem cookiesCleanExpired_eq (deleteOldest : Bool) :
    cookiesCleanExpired crypto cfg exchange cookies currentCookieName deleteOldest =
      let stale := (staleNames crypto cfg exchange.now cookies currentCookieName).map
        (removal exchange)
      let valid := validCookies crypto cfg exchange.now cookies currentCookieName
      if deleteOldest then
        let result := cookiesDeleteOldest exchange
          (valid.length - cfg.maxNumberOfCookies + 1).toNat valid.length valid
        (stale ++ result.1, result.2)
      else (stale, valid.length) := by
  obtain ⟨sets, valid⟩ := cookiesParseToken_all crypto cfg exchange currentCookieName
    (strtok ';' (cookies.getD "").toList)
  rw [cookiesCleanExpired]
  dsimp only
  rw [sets, valid]
  rfl

/-- With the oldest cookies to be deleted and no limit, the number returned is no number of cookies.
-/
theorem cookiesCleanExpired_unlimited (unlimited : cfg.maxNumberOfCookies = 0) :
    (cookiesCleanExpired crypto cfg exchange cookies currentCookieName true).2 = -1 := by
  rw [cookiesCleanExpired_eq, if_pos rfl]
  dsimp only
  obtain ⟨deleted, kept, -, -, same⟩ := cookiesDeleteOldest_spec exchange
    ((validCookies crypto cfg exchange.now cookies currentCookieName).length -
      cfg.maxNumberOfCookies + 1).toNat
    (validCookies crypto cfg exchange.now cookies currentCookieName).length
    (validCookies crypto cfg exchange.now cookies currentCookieName)
  rw [same]
  dsimp only
  omega

theorem not_housekept_of_unlimited (unlimited : cfg.maxNumberOfCookies = 0) :
    ¬Housekept crypto cfg exchange cookies currentCookieName true
      (cookiesCleanExpired crypto cfg exchange cookies currentCookieName true) := by
  intro kept
  obtain ⟨deleted, kept, -, -, number, -⟩ := kept.divided
  rw [cookiesCleanExpired_unlimited crypto cfg exchange cookies currentCookieName
    unlimited] at number
  omega

/-- The promises are kept, unless the oldest cookies are to be deleted and there is no limit. -/
theorem housekept_iff (configured : 0 ≤ cfg.maxNumberOfCookies) (deleteOldest : Bool) :
    Housekept crypto cfg exchange cookies currentCookieName deleteOldest
        (cookiesCleanExpired crypto cfg exchange cookies currentCookieName deleteOldest) ↔
      ¬(deleteOldest = true ∧ cfg.maxNumberOfCookies = 0) := by
  constructor
  · rintro kept ⟨rfl, unlimited⟩
    exact not_housekept_of_unlimited crypto cfg exchange cookies currentCookieName unlimited kept
  · intro limited
    set valid := validCookies crypto cfg exchange.now cookies currentCookieName with validDef
    have spared : ∀ deleted kept, Divides valid deleted kept →
        ∀ name ∈ staleNames crypto cfg exchange.now cookies currentCookieName ++
          deleted.map ValidCookie.name,
        cfg.cookiePrefix.toList <+: name.toList ∧ currentCookieName ≠ some name := by
      intro deleted kept divides name member
      rcases List.mem_append.mp member with stale | old
      · exact staleNames_spared crypto cfg exchange cookies currentCookieName stale
      · obtain ⟨cookie, isOld, rfl⟩ := List.mem_map.mp old
        exact validCookies_spared crypto cfg exchange cookies currentCookieName
          (divides.all.subset (List.mem_append_left kept isOld))
    have assembled : ∃ deleted kept, Divides valid deleted kept ∧
        (cookiesCleanExpired crypto cfg exchange cookies currentCookieName deleteOldest).1 =
          (staleNames crypto cfg exchange.now cookies currentCookieName ++
            deleted.map ValidCookie.name).map (removal exchange) ∧
        (cookiesCleanExpired crypto cfg exchange cookies currentCookieName deleteOldest).2 =
          kept.length ∧
        (if deleteOldest = true ∧ 0 < cfg.maxNumberOfCookies then
          (kept.length : Int) = min (valid.length : Int) (cfg.maxNumberOfCookies - 1)
        else deleted = []) := by
      rw [cookiesCleanExpired_eq]
      dsimp only
      cases deleteOldest with
      | false =>
          refine ⟨[], valid, Divides.none valid, ?_, rfl, ?_⟩
          · simp
          · simp
      | true =>
          have positive : 0 < cfg.maxNumberOfCookies := by
            have nonzero : cfg.maxNumberOfCookies ≠ 0 := fun zero => limited ⟨rfl, zero⟩
            omega
          obtain ⟨deleted, kept, divides, length, same⟩ := cookiesDeleteOldest_spec exchange
            (valid.length - cfg.maxNumberOfCookies + 1).toNat valid.length valid
          refine ⟨deleted, kept, divides, ?_, ?_, ?_⟩
          · rw [if_pos rfl, same, List.map_append]
          · rw [if_pos rfl, same]
            dsimp only
            omega
          · rw [if_pos ⟨rfl, positive⟩]
            omega
    obtain ⟨deleted, kept, divides, sets, number, count⟩ := assembled
    refine ⟨⟨deleted, kept, divides, sets, number, count⟩, ?_⟩
    intro set member
    rw [sets] at member
    obtain ⟨name, listed, rfl⟩ := List.mem_map.mp member
    exact spared deleted kept divides name listed

end Call

/-- A header with a state cookie that is still valid. -/
def oneStateCookie : Option String := some "mod_auth_openidc_state_x=sealed"

theorem aMinuteLater_late : timeoutMax * 1000000 ≤ 1700000060000000 := by decide

/-- A minute after the state cookie was set. -/
def aMinuteLater : Exchange where
  now := 1700000060000000
  now_late := aMinuteLater_late

/-- With a limit of two, the valid cookie stays. -/
theorem housekept_two :
    Housekept loginCrypto { maxNumberOfCookies := 2 } aMinuteLater oneStateCookie
    none true (cookiesCleanExpired loginCrypto
        { maxNumberOfCookies := 2 } aMinuteLater oneStateCookie
      none true) :=
  (housekept_iff loginCrypto { maxNumberOfCookies := 2 } aMinuteLater oneStateCookie none
    (by decide) true).mpr (by decide)

/-- Without a limit, the valid cookie is removed and the number returned is negative. -/
theorem unlimited_cookie_removed :
    (validCookies loginCrypto
    { maxNumberOfCookies := 0 } aMinuteLater.now oneStateCookie none).length
        = 1 ∧
      cookiesCleanExpired loginCrypto
          { maxNumberOfCookies := 0 } aMinuteLater oneStateCookie none true
        = ([removal aMinuteLater "mod_auth_openidc_state_x"], -1) ∧
      ¬Housekept loginCrypto { maxNumberOfCookies := 0 } aMinuteLater oneStateCookie none true
        (cookiesCleanExpired loginCrypto
        { maxNumberOfCookies := 0 } aMinuteLater oneStateCookie none
          true) := by
  refine ⟨by decide +kernel, by decide +kernel, ?_⟩
  exact not_housekept_of_unlimited loginCrypto _ aMinuteLater oneStateCookie none rfl

end State

end ModAuthOpenidc
