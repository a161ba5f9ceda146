import ModAuthOpenidc.Cache.Facade
import ModAuthOpenidc.OAuth.Token

/-!
# Timeouts of the remote caches

The facade passes the time at which an entry expires. The shared-memory and file backends store that
time. The Redis backend sends the seconds from now on, and the memcache backend sends the seconds
since 1970, each cut to 32 bits. Redis reads its number as a signed one and refuses it unless it is
positive. memcached counts a number of at most 30 days from now on and keeps an entry for ever if
the number is zero.
-/

namespace ModAuthOpenidc

namespace Cache

/-! ## Machine integers -/

/-- The result of an operation on `apr_time_t`. -/
def aprTime (time : Int) : Int := time.bmod (2 ^ 64)

/-- `apr_time_sec`. -/
def aprTimeSec (time : Int) : Int := time.tdiv 1000000

/-- The conversion to `apr_uint32_t`. -/
def uint32 (value : Int) : Int := value % 2 ^ 32

/-- What `%d` prints for an `apr_uint32_t`. -/
def int32 (value : Int) : Int := value.bmod (2 ^ 32)

/-- A second, in microseconds. -/
def second : Int := 1000000

/-! ## Servers -/

/-- What becomes of an entry that a server is asked to store. -/
inductive Lifetime
  /-- The server reports an error. -/
  | refused
  /-- The entry is dropped at the given time. -/
  | ends (time : Int)
  /-- The entry does not expire. -/
  | unending
deriving DecidableEq, Repr

namespace Lifetime

/-- Whether the entry is found at a given time. -/
def alive (time : Int) : Lifetime → Bool
  | refused => false
  | ends expires => time < expires
  | unending => true

/-- The entry ends at its expiry, or less than a second early. -/
def Keeps (expiry : Int) : Lifetime → Prop
  | refused => False
  | ends time => expiry - second ≤ time ∧ time ≤ expiry
  | unending => False

instance (expiry : Int) : DecidablePred (Keeps expiry)
  | refused => inferInstanceAs (Decidable False)
  | ends time => inferInstanceAs (Decidable (expiry - second ≤ time ∧ time ≤ expiry))
  | unending => inferInstanceAs (Decidable False)

end Lifetime

/-- A command for a Redis server. -/
inductive RedisCommand
  /-- `DEL`. -/
  | del (key : String)
  /-- `SET` with `EX`. -/
  | set (key value : String) (seconds : Int)
deriving DecidableEq, Repr

/-- What a Redis server does with an entry that lives for some seconds. -/
def redisLifetime (now seconds : Int) : Lifetime :=
  if 0 < seconds then .ends (now + seconds * second) else .refused

/-- What becomes of the entry that a command stores. -/
def RedisCommand.lifetime (now : Int) : RedisCommand → Option Lifetime
  | del _ => none
  | set _ _ seconds => some (redisLifetime now seconds)

/-- A command for memcached. -/
inductive MemcacheCommand
  /-- `apr_memcache_delete`. -/
  | delete (key : String)
  /-- `apr_memcache_set`. -/
  | set (key value : String) (timeout : Int)
deriving DecidableEq, Repr

/-- Up to 30 days memcached takes a number for seconds from now on. -/
def relativeMax : Int := 60 * 60 * 24 * 30

/-- What memcached does with an entry that has a timeout. -/
def memcacheLifetime (now timeout : Int) : Lifetime :=
  if timeout = 0 then .unending
  else if timeout ≤ relativeMax then .ends (now + timeout * second)
  else .ends (timeout * second)

/-- What becomes of the entry that a command stores. -/
def MemcacheCommand.lifetime (now : Int) : MemcacheCommand → Option Lifetime
  | delete _ => none
  | set _ _ timeout => some (memcacheLifetime now timeout)

/-! ## Backends -/

/-- The command that `oidc_cache_redis_set` sends, deleting for `none`. -/
def redisSet (now : Int) (sectionName key : String) (value : Option String) (expiry : Int) :
    RedisCommand :=
  match value with
  | none => .del (Facade.sectionKey sectionName key)
  | some value =>
      let timeout := uint32 (aprTimeSec (aprTime (expiry - now)))
      .set (Facade.sectionKey sectionName key) value (int32 timeout)

/-- `oidc_cache_memcache_get_key`, with the hash of the facade. -/
def memcacheGetKey (hash : String → String) (sectionName key : String) : String :=
  hash (Facade.sectionKey sectionName key)

/-- The command that `oidc_cache_memcache_set` sends, deleting for `none`. -/
def memcacheSet (hash : String → String) (sectionName key : String) (value : Option String)
    (expiry : Int) : MemcacheCommand :=
  match value with
  | none => .delete (memcacheGetKey hash sectionName key)
  | some value =>
      let timeout := uint32 (aprTimeSec expiry)
      .set (memcacheGetKey hash sectionName key) value timeout

/-- An entry that is stored with Redis or memcached is kept until its expiry. -/
structure BothKeep (hash : String → String) (now : Int) (sectionName key value : String)
    (expiry : Int) : Prop where
  redis : ∃ life, (redisSet now sectionName key (some value) expiry).lifetime now = some life ∧
    life.Keeps expiry
  memcache : ∃ life,
    (memcacheSet hash sectionName key (some value) expiry).lifetime now = some life ∧
      life.Keeps expiry

/-! ## Seconds -/

theorem aprTimeSec_of_nonneg {time : Int} (past : 0 ≤ time) : aprTimeSec time = time / 1000000 :=
  Int.tdiv_eq_ediv_of_nonneg past

theorem aprTimeSec_of_neg {time : Int} (ancient : time < 0) :
    aprTimeSec time = -(-time / 1000000) := by
  have positive : 0 ≤ -time := by omega
  rw [aprTimeSec, ← Int.tdiv_eq_ediv_of_nonneg positive, Int.neg_tdiv, neg_neg]

/-- A small difference of times is computed without overflow. -/
theorem aprTime_of_small {time : Int} (past : 0 ≤ time) (small : time < 2 ^ 63) :
    aprTime time = time := by
  rw [aprTime, Int.bmod_eq_of_le] <;> omega

/-- Half of the unsigned numbers are printed as themselves. -/
theorem int32_of_small {value : Int} (nonneg : 0 ≤ value) (small : value < 2 ^ 31) :
    int32 value = value := by
  rw [int32, Int.bmod_eq_of_le] <;> omega

/-- No printed number is as large as the other half. -/
theorem int32_lt (value : Int) : int32 value < 2 ^ 31 := by
  have below := Int.bmod_lt (x := value) (m := 2 ^ 32) (by decide)
  rw [int32]
  omega

/-! ## Redis -/

/-- The seconds of an expiry that is ahead are sent as they are if they fit in 31 bits. -/
theorem redis_seconds {now expiry : Int} (ahead : now + second ≤ expiry)
    (near : expiry - now < 2 ^ 31 * second) :
    int32 (uint32 (aprTimeSec (aprTime (expiry - now)))) = (expiry - now) / 1000000 := by
  rw [second] at ahead near
  rw [aprTime_of_small (by omega) (by omega), aprTimeSec_of_nonneg (by omega), uint32,
    Int.emod_eq_of_lt (by omega) (by omega), int32_of_small (by omega) (by omega)]

/-- At the limit the number is printed as a negative one. -/
theorem redis_seconds_limit {distance : Int} (least : 2 ^ 31 * second ≤ distance)
    (greatest : distance < 2 ^ 31 * second + second) :
    int32 (uint32 (aprTimeSec (aprTime distance))) = -2 ^ 31 := by
  rw [second] at least greatest
  have seconds : distance / 1000000 = 2 ^ 31 := by omega
  rw [aprTime_of_small (by omega) (by omega), aprTimeSec_of_nonneg (by omega), seconds]
  decide

/-- Redis keeps an entry until its expiry if that is less than `2 ^ 31` seconds away, and not
otherwise. -/
theorem redisLifetime_keeps_iff {now expiry : Int} (ahead : now + second ≤ expiry) :
    (redisLifetime now (int32 (uint32 (aprTimeSec (aprTime (expiry - now)))))).Keeps expiry ↔
      expiry - now < 2 ^ 31 * second := by
  constructor
  · intro keeps
    by_contra far
    have small := int32_lt (uint32 (aprTimeSec (aprTime (expiry - now))))
    unfold redisLifetime at keeps
    split at keeps
    · obtain ⟨late, -⟩ := keeps
      have least : 2 ^ 31 * second ≤ expiry - now := by omega
      have limit := redis_seconds_limit least (by rw [second] at *; omega)
      rw [second] at *
      omega
    · exact keeps
  · intro near
    rw [redis_seconds ahead near]
    rw [second] at ahead
    have positive : 0 < (expiry - now) / 1000000 := by omega
    rw [redisLifetime, if_pos positive]
    change expiry - second ≤ _ ∧ _ ≤ expiry
    rw [second]
    omega

/-! ## memcached -/

/-- The expiries that memcached keeps: those whose seconds are more than 30 days and fit in 32 bits,
and those that exceed a multiple of `2 ^ 32` seconds by at most 30 days while the clock shows that
multiple. -/
def MemcacheInRange (now expiry : Int) : Prop :=
  (relativeMax < aprTimeSec expiry ∧ aprTimeSec expiry < 2 ^ 32) ∨
    ∃ rest, 0 < rest ∧ rest ≤ relativeMax ∧ (2 ^ 32 : Int) ∣ aprTimeSec expiry - rest ∧
      now ≤ expiry - rest * second ∧ expiry - rest * second ≤ now + second

/-- The seconds of a time are its whole seconds, on either side of 1970. -/
theorem aprTimeSec_spec (time : Int) :
    (0 ≤ time → aprTimeSec time * 1000000 ≤ time ∧ time < aprTimeSec time * 1000000 + 1000000) ∧
      (time < 0 → aprTimeSec time ≤ 0) := by
  constructor
  · intro past
    rw [aprTimeSec_of_nonneg past]
    omega
  · intro ancient
    rw [aprTimeSec_of_neg ancient]
    omega

/-- A number that means a time is kept until that time if no bits were lost. -/
theorem absolute_keeps_iff {expiry : Int} (large : relativeMax < uint32 (aprTimeSec expiry)) :
    (Lifetime.ends (uint32 (aprTimeSec expiry) * second)).Keeps expiry ↔
      relativeMax < aprTimeSec expiry ∧ aprTimeSec expiry < 2 ^ 32 := by
  obtain ⟨past, ancient⟩ := aprTimeSec_spec expiry
  generalize aprTimeSec expiry = seconds at *
  change expiry - second ≤ _ ∧ _ ≤ expiry ↔ _
  rw [second]
  unfold uint32 relativeMax at *
  rcases lt_or_ge expiry 0 with before | after
  · have none := ancient before
    omega
  · obtain ⟨least, greatest⟩ := past after
    omega

/-- A number that means some seconds from now on is kept if now is that much before the expiry. -/
theorem relative_keeps_iff {now expiry : Int} :
    (Lifetime.ends (now + uint32 (aprTimeSec expiry) * second)).Keeps expiry ↔
      now ≤ expiry - uint32 (aprTimeSec expiry) * second ∧
        expiry - uint32 (aprTimeSec expiry) * second ≤ now + second := by
  change expiry - second ≤ _ ∧ _ ≤ expiry ↔ _
  omega

/-- What exceeds a multiple of `2 ^ 32` by at most 30 days is the unsigned number. -/
theorem uint32_of_dvd {seconds rest : Int} (nonneg : 0 ≤ rest) (small : rest ≤ relativeMax)
    (multiple : (2 ^ 32 : Int) ∣ seconds - rest) : uint32 seconds = rest := by
  unfold uint32 relativeMax at *
  omega

/-- memcached keeps an entry until its expiry if that is in range, and not otherwise. -/
theorem memcacheLifetime_keeps_iff {now expiry : Int} :
    (memcacheLifetime now (uint32 (aprTimeSec expiry))).Keeps expiry ↔
      MemcacheInRange now expiry := by
  have least : 0 ≤ uint32 (aprTimeSec expiry) := Int.emod_nonneg _ (by decide)
  have multiple : (2 ^ 32 : Int) ∣ aprTimeSec expiry - uint32 (aprTimeSec expiry) := by
    unfold uint32
    omega
  have inside : relativeMax < aprTimeSec expiry ∧ aprTimeSec expiry < 2 ^ 32 →
      uint32 (aprTimeSec expiry) = aprTimeSec expiry := by
    rintro ⟨above, below⟩
    rw [uint32, Int.emod_eq_of_lt _ below]
    exact (by decide : 0 ≤ relativeMax).trans above.le
  unfold memcacheLifetime MemcacheInRange
  split
  · next zero =>
      constructor
      · exact False.elim
      · rintro (absolute | ⟨rest, positive, small, divides, -, -⟩)
        · have same := inside absolute
          have above := (by decide : 0 ≤ relativeMax).trans_lt absolute.1
          omega
        · have same := uint32_of_dvd positive.le small divides
          omega
  · next nonzero =>
      split
      · next small =>
          rw [relative_keeps_iff]
          constructor
          · rintro ⟨late, early⟩
            exact .inr ⟨_, by omega, small, multiple, late, early⟩
          · rintro (absolute | ⟨rest, positive, small', divides, window⟩)
            · have same := inside absolute
              have above := absolute.1
              omega
            · rw [uint32_of_dvd positive.le small' divides]
              exact window
      · next large =>
          rw [absolute_keeps_iff (by omega)]
          constructor
          · exact .inl
          · rintro (absolute | ⟨rest, positive, small, divides, -, -⟩)
            · exact absolute
            · have same := uint32_of_dvd positive.le small divides
              omega

/-! ## Both backends -/

/-- With an entry that is kept until its expiry a backend answers as the map with that entry does,
up to the last second before the expiry. -/
theorem Lifetime.Keeps.alive_eq_live {life : Lifetime} {expiry : Int} (keeps : life.Keeps expiry)
    (value : String) {time : Int} (outside : time < expiry - second ∨ expiry ≤ time) :
    life.alive time = (ExpiringMap.live time (some (value, expiry))).isSome := by
  cases life with
  | refused => exact keeps.elim
  | unending => exact keeps.elim
  | ends expires =>
      obtain ⟨least, greatest⟩ := keeps
      have same : time < expires ↔ time < expiry := by omega
      simp only [Lifetime.alive, ExpiringMap.live, Option.bind_some, same]
      split <;> simp [*]

/-- Redis and memcached keep an entry until its expiry, to the second, if the seconds from now on
fit in 31 bits and the seconds since 1970 are in range for memcached, and not otherwise. -/
theorem backends_keep_expiry_iff (hash : String → String) (sectionName key value : String)
    {now expiry : Int} (ahead : now + second ≤ expiry) :
    BothKeep hash now sectionName key value expiry ↔
      expiry - now < 2 ^ 31 * second ∧ MemcacheInRange now expiry := by
  rw [← redisLifetime_keeps_iff ahead, ← memcacheLifetime_keeps_iff]
  constructor
  · rintro ⟨⟨redis, sent, kept⟩, ⟨memcache, sent', kept'⟩⟩
    obtain rfl := Option.some.inj sent
    obtain rfl := Option.some.inj sent'
    exact ⟨kept, kept'⟩
  · rintro ⟨redis, memcache⟩
    exact ⟨⟨_, rfl, redis⟩, ⟨_, rfl, memcache⟩⟩

/-- A session of eight hours is kept. -/
theorem backends_keep_session :
    BothKeep id 1785000000000000 "s" "key" "value" 1785028800000000 :=
  (backends_keep_expiry_iff id "s" "key" "value" (by decide)).mpr ⟨by decide, .inl (by decide)⟩

/-- An access token whose `exp` exceeds the range of `apr_time_t` is cached with the largest time.
Redis and memcached drop its entry after nine years. -/
theorem saturated_expiry_lost :
    OAuth.parseAndCacheTokenExpiry [("exp", .int 9999999999999)] "exp" true true
          1785000000000000 0 = some (2 ^ 63 - 1) ∧
      (redisSet 1785000000000000 "a" "token" (some "value") (2 ^ 63 - 1)).lifetime
          1785000000000000 = some (.ends 2077252342000000) ∧
      (memcacheSet id "a" "token" (some "value") (2 ^ 63 - 1)).lifetime 1785000000000000 =
        some (.ends 2077252342000000) ∧
      ¬BothKeep id 1785000000000000 "a" "token" "value" (2 ^ 63 - 1) := by
  have redis : (redisSet 1785000000000000 "a" "token" (some "value") (2 ^ 63 - 1)).lifetime
      1785000000000000 = some (.ends 2077252342000000) := by decide
  refine ⟨by decide +kernel, redis, by decide, ?_⟩
  rintro ⟨⟨life, sent, kept⟩, -⟩
  obtain rfl := Option.some.inj (sent.symm.trans redis)
  exact absurd kept (by decide)

end Cache

end ModAuthOpenidc
