import ModAuthOpenidc.ExpiringMap
import ModAuthOpenidc.Util.Jwt

/-!
# The cache facade

All users of the cache go through `oidc_cache_get` and `oidc_cache_set` of `src/cache/common.c`.
With `OIDCCacheEncrypt` the facade encrypts the values and stores them under a hash of the
passphrase and the key. After a change of the passphrase a reader looks for a value under the new
passphrase and then under the old one, but a writer knows only the new one: the copy under the old
one stays behind.
-/

namespace ModAuthOpenidc

namespace Cache

open Util

/-- `OIDC_CACHE_KEY_SIZE_MAX`. -/
def keySizeMax : Nat := 512

/-- What a correct backend holds, by section and key. -/
abbrev Store := String → String → Option (String × Int)

/-- The settings of the facade that do not change. -/
structure Facade (κ β : Type) where
  /-- `oidc_util_hash_string_and_base64url_encode` with SHA-256. -/
  hash : String → String
  cjose : Cjose κ β
  /-- Whether values are compressed. -/
  compress : Bool := true
  /-- `OIDCCacheEncrypt`. -/
  encrypt : Bool

namespace Facade

variable {κ β : Type} (facade : Facade κ β)

/-- `oidc_cache_section_key`. -/
def sectionKey (first key : String) : String := first ++ ":" ++ key

/-- `oidc_cache_get_key`. -/
def getKey (key : String) (secret : Option String) : Option String :=
  if facade.encrypt then secret.map fun secret => facade.hash (sectionKey secret key)
  else if keySizeMax ≤ key.utf8ByteSize then some (facade.hash key)
  else some key

/-- `oidc_cache_section_get`, with the value of `OIDC_CACHE_PREFIX`. -/
def sectionGet (cachePrefix : Option String) (sectionName : String) : String :=
  cachePrefix.getD "" ++ sectionName

/-- `oidc_cache_crypto_decrypt`, with one of the two passphrases. -/
def cryptoDecrypt (secret : Option String) (value : String) : Option String :=
  jwtVerify facade.cjose ⟨secret, none⟩ value

/-- `oidc_cache_get`: a failure, or a miss, or a value. -/
def get (passphrase : Passphrase) (store : Store) (now : Int) (cachePrefix : Option String)
    (sectionName key : String) : Option (Option String) :=
  let sectionName := sectionGet cachePrefix sectionName
  match facade.getKey key passphrase.secret1 with
  | none => none
  | some first =>
      match ExpiringMap.live now (store sectionName first) with
      | some value =>
          if facade.encrypt then (facade.cryptoDecrypt passphrase.secret1 value).map some
          else some (some value)
      | none =>
          if facade.encrypt && passphrase.secret2.isSome then
            match facade.getKey key passphrase.secret2 with
            | none => none
            | some second =>
                match ExpiringMap.live now (store sectionName second) with
                | some value => (facade.cryptoDecrypt passphrase.secret2 value).map some
                | none => some none
          else some none

/-- Write an entry, or delete it. -/
def put (store : Store) (sectionName key : String) (entry : Option (String × Int)) : Store :=
  Function.update store sectionName (Function.update (store sectionName) key entry)

/-- `oidc_cache_set`, deleting for `none`. -/
def set (passphrase : Passphrase) (store : Store) (cachePrefix : Option String)
    (sectionName key : String) (value : Option String) (expiry : Int) : Store × Bool :=
  let sectionName := sectionGet cachePrefix sectionName
  match facade.getKey key passphrase.secret1 with
  | none => (store, false)
  | some physical =>
      match value with
      | none => (put store sectionName physical none, true)
      | some value =>
          if facade.encrypt then
            match jwtCreate facade.cjose facade.compress passphrase value with
            | none => (store, false)
            | some token => (put store sectionName physical (some (token, expiry)), true)
          else (put store sectionName physical (some (value, expiry)), true)

end Facade

/-! ## Calls across a change of the passphrase -/

/-- A call of the facade. -/
inductive Call
  | set (cachePrefix : Option String) (sectionName key : String)
      (value : Option String) (expiry : Int)
  | get (cachePrefix : Option String) (sectionName key : String) (now : Int)

/-- What a call does to the map that the facade should be. -/
def Call.event : Call → Option (ExpiringMap.Event (String × String) String Int)
  | set cachePrefix sectionName key (some value) expiry =>
      some (.stored (Facade.sectionGet cachePrefix sectionName, key) value expiry)
  | set cachePrefix sectionName key none _ =>
      some (.deleted (Facade.sectionGet cachePrefix sectionName, key))
  | get _ _ _ _ => none

/-- The writes and deletions among some calls. -/
def history (calls : List Call) : List (ExpiringMap.Event (String × String) String Int) :=
  calls.filterMap Call.event

/-- The calls before and after the passphrase is changed, if it is. -/
structure Timeline where
  secret : String
  before : List Call
  rotation : Option (String × List Call) := none

namespace Timeline

variable {κ β : Type} (facade : Facade κ β) (timeline : Timeline)

/-- The passphrases at the end. -/
def passphrase : Passphrase :=
  match timeline.rotation with
  | none => ⟨some timeline.secret, none⟩
  | some (new, _) => ⟨some new, some timeline.secret⟩

/-- The calls after the change. -/
def after : List Call := (timeline.rotation.map Prod.snd).getD []

/-- All passphrases. -/
def secrets : List String := timeline.secret :: (timeline.rotation.map Prod.fst).toList

/-- The effect of some calls under one configuration. -/
def runCalls (passphrase : Passphrase) (store : Store) (calls : List Call) : Store :=
  calls.foldl (fun store call =>
    match call with
    | .set cachePrefix sectionName key value expiry =>
        (facade.set passphrase store cachePrefix sectionName key value expiry).1
    | .get _ _ _ _ => store) store

/-- The backend at the end, if it was empty at first. -/
def store : Store :=
  runCalls facade timeline.passphrase
    (runCalls facade ⟨some timeline.secret, none⟩ (fun _ _ => none) timeline.before) timeline.after

/-- What the map should hold at the end. -/
def expected (now : Int) (sectionName key : String) : Option String :=
  ExpiringMap.live now
    (ExpiringMap.latest (history timeline.before ++ history timeline.after) (sectionName, key))

/-- A key was written or deleted after a change of the passphrase and is gone again, while its value
from before the change has not expired. -/
def Resurfaces (now : Int) (sectionName key : String) : Prop :=
  timeline.passphrase.secret1 ≠ some timeline.secret ∧
    (∃ event ∈ history timeline.after, event.key = (sectionName, key)) ∧
    ExpiringMap.live now (ExpiringMap.latest (history timeline.after) (sectionName, key)) = none ∧
    ExpiringMap.live now (ExpiringMap.latest (history timeline.before) (sectionName, key)) ≠ none

end Timeline

/-- Different passphrases and keys have different hashes. -/
def CollisionFree (hash : String → String) (secrets : List String) : Prop :=
  ∀ first ∈ secrets, ∀ second ∈ secrets, ∀ key other,
    hash (Facade.sectionKey first key) = hash (Facade.sectionKey second other) →
      first = second ∧ key = other

theorem CollisionFree.mono {hash : String → String} {secrets fewer : List String}
    (separate : CollisionFree hash secrets) (included : fewer ⊆ secrets) :
    CollisionFree hash fewer :=
  fun first member second member' => separate first (included member) second (included member')

/-! ## One passphrase -/

section OnePassphrase

variable {κ β : Type} {facade : Facade κ β}

/-- A map by section and key. -/
abbrev View := String × String → Option (String × Int)

/-- The backend holds the entries of a map under the hashes for one passphrase. -/
def Represents (facade : Facade κ β) (secret : String) (store : Store) (view : View) : Prop :=
  ∀ sectionName key, match view (sectionName, key) with
    | none => store sectionName (facade.hash (Facade.sectionKey secret key)) = none
    | some (value, expiry) => ∃ token,
        store sectionName (facade.hash (Facade.sectionKey secret key)) = some (token, expiry) ∧
          facade.cryptoDecrypt (some secret) token = some value

theorem Facade.put_apply (store : Store) (sectionName key other key' : String)
    (entry : Option (String × Int)) :
    Facade.put store sectionName key entry other key' =
      if other = sectionName ∧ key' = key then entry else store other key' := by
  unfold Facade.put
  by_cases same : other = sectionName
  · subst same
    rw [Function.update_self, Function.update_apply]
    simp
  · rw [Function.update_of_ne same, if_neg fun both => same both.1]

/-- What is encrypted under a passphrase can be decrypted with it alone. -/
theorem cryptoDecrypt_create (ideal : facade.cjose.Ideal facade.compress) (passphrase : Passphrase)
    {secret : String} (own : passphrase.secret1 = some secret) (value : String) :
    ∃ token, jwtCreate facade.cjose facade.compress passphrase value = some token ∧
      facade.cryptoDecrypt (some secret) token = some value := by
  refine Option.bind_eq_some_iff.mp ((verify_create_tried ideal passphrase _ value own).mpr ?_)
  simp [tried]

/-- A write or a deletion under the passphrase changes the map in the same way. -/
theorem Represents.set {secret : String} {store : Store} {view : View}
    (represents : Represents facade secret store view) (encrypted : facade.encrypt = true)
    (ideal : facade.cjose.Ideal facade.compress) {passphrase : Passphrase}
    (own : passphrase.secret1 = some secret) (separate : CollisionFree facade.hash [secret])
    (cachePrefix : Option String) (sectionName key : String) (value : Option String)
    (expiry : Int) :
    Represents facade secret
      (facade.set passphrase store cachePrefix sectionName key value expiry).1
      (Function.update view (Facade.sectionGet cachePrefix sectionName, key)
        (value.map fun value => (value, expiry))) := by
  have apart {other : String} (different : other ≠ key) :
      facade.hash (Facade.sectionKey secret other) ≠ facade.hash (Facade.sectionKey secret key) :=
    fun same => different (separate secret (by simp) secret (by simp) _ _ same).2
  generalize full : Facade.sectionGet cachePrefix sectionName = place
  have written (entry : Option (String × Int)) (other key' : String)
      (elsewhere : (other, key') ≠ (place, key)) :
      Facade.put store place (facade.hash (Facade.sectionKey secret key)) entry other
        (facade.hash (Facade.sectionKey secret key')) =
      store other (facade.hash (Facade.sectionKey secret key')) := by
    rw [Facade.put_apply, if_neg]
    rintro ⟨rfl, hashed⟩
    apply elsewhere
    by_contra different
    exact apart (fun same => different (by rw [same])) hashed
  intro other key'
  by_cases here : (other, key') = (place, key)
  · cases here
    rw [Function.update_self]
    cases value with
    | none => simp [Facade.set, Facade.getKey, encrypted, own, full, Facade.put_apply]
    | some value =>
        obtain ⟨token, created, decrypted⟩ := cryptoDecrypt_create ideal passphrase own value
        refine ⟨token, ?_, decrypted⟩
        simp [Facade.set, Facade.getKey, encrypted, own, full, created, Facade.put_apply]
  · have before := represents other key'
    rw [Function.update_of_ne here]
    cases value with
    | none =>
        simp only [Facade.set, Facade.getKey, encrypted, own, full, if_true, Option.map_some,
          written none other key' here]
        exact before
    | some value =>
        obtain ⟨token, created, -⟩ := cryptoDecrypt_create ideal passphrase own value
        simp only [Facade.set, Facade.getKey, encrypted, own, full, if_true,
          Option.map_some, created,
          written (some (token, expiry)) other key' here]
        exact before

/-- Writes under another passphrase leave the map alone. -/
theorem Represents.set_other {secret other : String} {store : Store} {view : View}
    (represents : Represents facade secret store view) (encrypted : facade.encrypt = true)
    {passphrase : Passphrase} (own : passphrase.secret1 = some other)
    (separate : CollisionFree facade.hash [secret, other]) (different : other ≠ secret)
    (cachePrefix : Option String) (sectionName key : String) (value : Option String)
    (expiry : Int) :
    Represents facade secret
      (facade.set passphrase store cachePrefix sectionName key value expiry).1 view := by
  have written (entry : Option (String × Int)) (place place' key' : String) :
      Facade.put store place (facade.hash (Facade.sectionKey other key)) entry place'
        (facade.hash (Facade.sectionKey secret key')) =
      store place' (facade.hash (Facade.sectionKey secret key')) := by
    rw [Facade.put_apply, if_neg]
    rintro ⟨-, hashed⟩
    exact different (separate secret (by simp) other (by simp) _ _ hashed).1.symm
  intro place key'
  have before := represents place key'
  cases value with
  | none =>
      simp only [Facade.set, Facade.getKey, encrypted, own, if_true, Option.map_some, written]
      exact before
  | some value =>
      simp only [Facade.set, Facade.getKey, encrypted, own, if_true, Option.map_some]
      cases jwtCreate facade.cjose facade.compress passphrase value with
      | none => exact before
      | some token =>
          simp only [written]
          exact before

/-- Calls under the passphrase do to the backend what they do to the map. -/
theorem Represents.run {secret : String} (encrypted : facade.encrypt = true)
    (ideal : facade.cjose.Ideal facade.compress) (passphrase : Passphrase)
    (own : passphrase.secret1 = some secret) (separate : CollisionFree facade.hash [secret])
    (calls : List Call) {store : Store}
    {past : List (ExpiringMap.Event (String × String) String Int)}
    (represents : Represents facade secret store (ExpiringMap.latest past)) :
    Represents facade secret (Timeline.runCalls facade passphrase store calls)
      (ExpiringMap.latest (past ++ history calls)) := by
  induction calls generalizing store past with
  | nil => simpa [history, Timeline.runCalls] using represents
  | cons call rest ih =>
      cases call with
      | get cachePrefix sectionName key now => exact ih represents
      | set cachePrefix sectionName key value expiry =>
          have next := represents.set encrypted ideal own separate cachePrefix sectionName
            key value expiry
          cases value with
          | none =>
              have extended := @ih _
                (past ++ [.deleted (Facade.sectionGet cachePrefix sectionName, key)])
                (by rw [ExpiringMap.latest_concat]; exact next)
              rwa [List.append_assoc] at extended
          | some value =>
              have extended := @ih _
                (past ++ [.stored (Facade.sectionGet cachePrefix sectionName, key) value expiry])
                (by rw [ExpiringMap.latest_concat]; exact next)
              rwa [List.append_assoc] at extended

/-- Calls under another passphrase leave the map alone. -/
theorem Represents.run_other {secret other : String} (encrypted : facade.encrypt = true)
    (passphrase : Passphrase) (own : passphrase.secret1 = some other)
    (separate : CollisionFree facade.hash [secret, other]) (different : other ≠ secret)
    (calls : List Call) {store : Store} {view : View}
    (represents : Represents facade secret store view) :
    Represents facade secret (Timeline.runCalls facade passphrase store calls) view := by
  induction calls generalizing store with
  | nil => exact represents
  | cons call rest ih =>
      cases call with
      | get cachePrefix sectionName key now => exact ih represents
      | set cachePrefix sectionName key value expiry =>
          exact ih (represents.set_other encrypted own separate different cachePrefix
            sectionName key
            value expiry)

/-- What is read under one passphrase. -/
theorem Represents.read {secret : String} {store : Store} {view : View}
    (represents : Represents facade secret store view) (now : Int) (sectionName key : String) :
    (ExpiringMap.live now (store sectionName (facade.hash (Facade.sectionKey secret key))) = none ∧
      ExpiringMap.live now (view (sectionName, key)) = none) ∨
    ∃ token value, ExpiringMap.live now
        (store sectionName (facade.hash (Facade.sectionKey secret key))) = some token ∧
      facade.cryptoDecrypt (some secret) token = some value ∧
      ExpiringMap.live now (view (sectionName, key)) = some value := by
  have entry := represents sectionName key
  cases found : view (sectionName, key) with
  | none =>
      rw [found] at entry
      exact .inl ⟨by rw [entry]; rfl, rfl⟩
  | some pair =>
      obtain ⟨value, expiry⟩ := pair
      rw [found] at entry
      obtain ⟨token, stored, decrypted⟩ := entry
      by_cases early : now < expiry
      · exact .inr ⟨token, value, by simp [stored, ExpiringMap.live, early], decrypted,
          by simp [ExpiringMap.live, early]⟩
      · exact .inl ⟨by simp [stored, ExpiringMap.live, early], by simp [ExpiringMap.live, early]⟩

end OnePassphrase

/-! ## Two passphrases -/

section TwoPassphrases

variable {κ β : Type} {facade : Facade κ β}

/-- A reader with one passphrase sees the map under it. -/
theorem get_one {secret : String} {store : Store} {view : View}
    (represents : Represents facade secret store view)
    (encrypted : facade.encrypt = true) (now : Int)
    (cachePrefix : Option String) (sectionName key : String) :
    facade.get ⟨some secret, none⟩ store now cachePrefix sectionName key =
      some (ExpiringMap.live now (view (Facade.sectionGet cachePrefix sectionName, key))) := by
  rcases represents.read now (Facade.sectionGet cachePrefix sectionName) key with
    ⟨missing, absent⟩ | ⟨token, value, present, decrypted, held⟩
  · simp [Facade.get, Facade.getKey, encrypted, missing, absent]
  · simp [Facade.get, Facade.getKey, encrypted, present, decrypted, held]

/-- A reader with two passphrases sees the map under the first one, and what is missing there in the
map under the second one. -/
theorem get_two {new old : String} {store : Store} {newView oldView : View}
    (newer : Represents facade new store newView) (older : Represents facade old store oldView)
    (encrypted : facade.encrypt = true) (now : Int) (cachePrefix : Option String)
    (sectionName key : String) :
    facade.get ⟨some new, some old⟩ store now cachePrefix sectionName key =
      some ((ExpiringMap.live now (newView (Facade.sectionGet cachePrefix sectionName, key))).or
        (ExpiringMap.live now (oldView (Facade.sectionGet cachePrefix sectionName, key)))) := by
  rcases newer.read now (Facade.sectionGet cachePrefix sectionName) key with
    ⟨missing, absent⟩ | ⟨token, value, present, decrypted, held⟩
  · rcases older.read now (Facade.sectionGet cachePrefix sectionName) key with
      ⟨missing', absent'⟩ | ⟨token, value, present, decrypted, held⟩
    · simp [Facade.get, Facade.getKey, encrypted, missing, absent, missing', absent']
    · simp [Facade.get, Facade.getKey, encrypted, missing, absent, present, decrypted, held]
  · simp [Facade.get, Facade.getKey, encrypted, present, decrypted, held]

/-- What a reader gets at the end of a timeline: the map, or if the passphrase has changed the map
since then and behind it the one from before. -/
theorem Timeline.get_eq (encrypted : facade.encrypt = true)
    (ideal : facade.cjose.Ideal facade.compress) (timeline : Timeline)
    (separate : CollisionFree facade.hash timeline.secrets) (now : Int)
    (cachePrefix : Option String)
    (sectionName key : String) :
    facade.get timeline.passphrase (timeline.store facade) now cachePrefix sectionName key =
      some (if timeline.passphrase.secret1 = some timeline.secret then
          timeline.expected now (Facade.sectionGet cachePrefix sectionName) key
        else
          (ExpiringMap.live now (ExpiringMap.latest (history timeline.after)
            (Facade.sectionGet cachePrefix sectionName, key))).or
          (ExpiringMap.live now (ExpiringMap.latest (history timeline.before)
            (Facade.sectionGet cachePrefix sectionName, key)))) := by
  obtain ⟨secret, before, rotation⟩ := timeline
  have empty (secret : String) :
      Represents facade secret (fun _ _ => none) (ExpiringMap.latest []) := fun _ _ => rfl
  have old := Represents.run encrypted ideal ⟨some secret, none⟩ rfl
    (separate.mono (by simp [Timeline.secrets])) before (empty secret)
  rw [List.nil_append] at old
  cases rotation with
  | none =>
      have unchanged : (Timeline.mk secret before none).passphrase.secret1 =
          some (Timeline.mk secret before none).secret := rfl
      rw [if_pos unchanged, Timeline.expected]
      have read := get_one old encrypted now cachePrefix sectionName key
      rwa [← List.append_nil (history before)] at read
  | some rotation =>
      obtain ⟨new, after⟩ := rotation
      by_cases same : new = secret
      · subst same
        have both := Represents.run encrypted ideal ⟨some new, some new⟩ rfl
          (separate.mono (by simp [Timeline.secrets])) after old
        have unchanged : (Timeline.mk new before (some (new, after))).passphrase.secret1 =
            some (Timeline.mk new before (some (new, after))).secret := rfl
        rw [if_pos unchanged, Timeline.expected]
        exact (get_two both both encrypted now cachePrefix sectionName key).trans
          (congrArg some Option.or_self)
      · have pair : CollisionFree facade.hash [secret, new] := separate
        have kept := Represents.run_other encrypted ⟨some new, some secret⟩ rfl pair same after old
        have fresh := Represents.run_other encrypted ⟨some secret, none⟩ rfl
          (pair.mono (by simp)) (Ne.symm same) before (empty new)
        have added := Represents.run encrypted ideal ⟨some new, some secret⟩ rfl
          (pair.mono (by simp)) after fresh
        rw [List.nil_append] at added
        have changed : (Timeline.mk secret before (some (new, after))).passphrase.secret1 ≠
            some (Timeline.mk secret before (some (new, after))).secret :=
          fun equal => same (Option.some.inj equal)
        rw [if_neg changed]
        exact get_two added kept encrypted now cachePrefix sectionName key

end TwoPassphrases

/-! ## A deleted session -/

/-- Passphrases of one length are separated by a hash that keeps everything. -/
theorem collisionFree_id {secrets : List String} (length : Nat)
    (lengths : ∀ secret ∈ secrets, secret.toList.length = length) : CollisionFree id secrets := by
  intro first member second member' key other same
  have lists := congrArg String.toList same
  simp only [id_eq, Facade.sectionKey, String.toList_append, List.append_assoc] at lists
  obtain ⟨secret, rest⟩ := List.append_inj lists ((lengths first member).trans
    (lengths second member').symm)
  exact ⟨String.toList_inj.mp secret, String.toList_inj.mp (List.append_cancel_left rest)⟩

/-- A facade with the cipher of the examples. -/
def sampleFacade : Facade String String where
  hash := id
  cjose := Sample.cjose
  encrypt := true

/-- A session is stored for an hour before the passphrase is changed. -/
def sampleTimeline (after : List Call) : Timeline where
  secret := "old"
  before := [.set none "session" "s1" (some "alice") 3600000000]
  rotation := some ("new", after)

end Cache

end ModAuthOpenidc
