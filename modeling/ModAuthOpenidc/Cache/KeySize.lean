import ModAuthOpenidc.Base64Url
import ModAuthOpenidc.Cache.Facade
import ModAuthOpenidc.Cache.ShmRefinement

/-!
# Long keys in the shared-memory cache

The facade replaces a key by its hash when the key has `OIDC_CACHE_KEY_SIZE_MAX` bytes or more. The
shared-memory backend refuses a key when the section, a colon and the key together have that many.
Between the two limits lie two lengths at which a key is neither hashed nor stored.
-/

namespace ModAuthOpenidc

namespace Cache

open Shm (Header Reply Mutex WellFormed)

/-- `OIDC_CACHE_SECTION_*`. -/
def cacheSections : List String := ["s", "n", "j", "a", "e", "p", "o", "t", "r", "d", "u", "q"]

/-- A text as the backend sees it: one character for each byte. -/
def octets (text : String) : String :=
  String.ofList (text.toByteArray.data.toList.map fun byte => Char.ofNat byte.toNat)

/-- `oidc_cache_get_hashed_key`, for the digests that SHA-256 returns. -/
def hashedKey (sha256 : String → List UInt8) (key : String) : String :=
  String.ofList (Base64Url.encode (sha256 key))

section Backend

variable {κ β : Type} (facade : Facade κ β) (hash : String → UInt64)

/-- `oidc_cache_set` with the shared-memory backend and without encryption. -/
def shmSet (cfg : Shm.Config) (shm : Header) (mutex : Mutex) (passphrase : Util.Passphrase)
    (cachePrefix : Option String) (sectionName key : String) (value : Option String)
    (expiry now : Int) : Option (Header × Reply) :=
  match facade.getKey key passphrase.secret1 with
  | none => some (shm, { ok := false })
  | some physical =>
      Shm.set hash cfg shm mutex (octets (Facade.sectionGet cachePrefix sectionName))
        (octets physical) (value.map octets) expiry now

/-- `oidc_cache_get` with the shared-memory backend and without encryption. -/
def shmGet (shm : Header) (mutex : Mutex) (passphrase : Util.Passphrase)
    (cachePrefix : Option String) (sectionName key : String) (now : Int) :
    Option (Header × Reply) :=
  match facade.getKey key passphrase.secret1 with
  | none => some (shm, { ok := false })
  | some physical =>
      Shm.get hash shm mutex (octets (Facade.sectionGet cachePrefix sectionName)) (octets physical)
        now

/-- The backend accepts the key, and what is stored under it is found while it has not expired. -/
structure Cacheable (cfg : Shm.Config) (passphrase : Util.Passphrase) (sectionName key : String) :
    Prop where
  /-- The backend does not refuse the key that the facade produces. -/
  accepted : ∃ physical sectionKey, facade.getKey key passphrase.secret1 = some physical ∧
    Shm.getKey (octets sectionName) (octets physical) = some sectionKey
  /-- Every value that fits is stored in every well-formed segment, and a following get returns it. -/
  stored : ∀ shm, WellFormed hash shm → ∀ value, Shm.valueFits cfg (octets value) = true →
    ∀ expiry now later, later < expiry →
      ∃ shm' reply, shmSet facade hash cfg shm {} passphrase none sectionName key
          (some value) expiry
          now = some (shm', reply) ∧ reply.ok = true ∧
        ∃ shm'' reply', shmGet facade hash shm' {} passphrase none sectionName key later =
            some (shm'', reply') ∧ reply'.ok = true ∧ reply'.value = some (octets value)

end Backend

/-! ## The two limits -/

theorem length_octets (text : String) : (octets text).length = text.utf8ByteSize := by
  rw [octets, String.length_ofList, List.length_map, Array.length_toList]
  rfl

/-- An ASCII text has as many bytes as characters. -/
theorem utf8ByteSize_ascii {text : List Char} (ascii : ∀ c ∈ text, c.toNat < 128) :
    (String.ofList text).utf8ByteSize = text.length := by
  rw [String.utf8ByteSize_ofList]
  induction text with
  | nil => rfl
  | cons c text ih =>
      have single : c.utf8Size = 1 := by
        rw [Char.utf8Size_eq_one_iff, UInt32.le_iff_toNat_le]
        have small := ascii c List.mem_cons_self
        exact Nat.le_of_lt_succ small
      rw [String.utf8Len_cons, ih fun other member =>
        ascii other (List.mem_cons_of_mem _ member), single,
        List.length_cons]

/-- A hashed key has 43 bytes. -/
theorem hashedKey_size {sha256 : String → List UInt8} (digest : ∀ key, (sha256 key).length = 32)
    (key : String) : (hashedKey sha256 key).utf8ByteSize = 43 := by
  rw [hashedKey, utf8ByteSize_ascii fun c member =>
      Base64Url.alphabet_ascii c (Base64Url.mem_encode _ c member), Base64Url.length_encode, digest]

/-- The names of the sections are letters. -/
theorem section_size {sectionName : String} (known : sectionName ∈ cacheSections) :
    sectionName.utf8ByteSize = 1 := by
  simp only [cacheSections, List.mem_cons, List.not_mem_nil, or_false] at known
  rcases known with rfl | rfl | rfl | rfl | rfl | rfl | rfl | rfl | rfl | rfl | rfl | rfl <;> rfl

/-- The backend counts the section and the separator as well. -/
theorem getKey_octets {sectionName : String} (known : sectionName ∈ cacheSections)
    (physical : String) :
    (∃ sectionKey, Shm.getKey (octets sectionName) (octets physical) = some sectionKey) ↔
      physical.utf8ByteSize < 510 := by
  have length : (Shm.cacheSectionKey (octets sectionName) (octets physical)).length =
      physical.utf8ByteSize + 2 := by
    rw [Shm.cacheSectionKey, String.length_append, String.length_append,
      length_octets, length_octets,
      section_size known]
    have colon : ":".length = 1 := rfl
    omega
  unfold Shm.getKey
  dsimp only
  rw [length]
  have limit : Shm.keyMax = 512 := rfl
  split
  · next large =>
      constructor
      · rintro ⟨sectionKey, refused⟩
        cases refused
      · intro small
        omega
  · next small => exact ⟨fun _ => by omega, fun _ => ⟨_, rfl⟩⟩

section Limits

variable {κ β : Type} {facade : Facade κ β} {sha256 : String → List UInt8}

/-- Without encryption a long key is replaced by its hash. -/
theorem getKey_plain (plain : facade.encrypt = false) (key : String) (secret : Option String) :
    facade.getKey key secret =
      some (if keySizeMax ≤ key.utf8ByteSize then facade.hash key else key) := by
  rw [Facade.getKey, plain]
  split
  · next encrypted => cases encrypted
  · exact (apply_ite some _ _ _).symm

/-- The key that the facade produces is accepted unless it falls between the two limits. -/
theorem key_accepted_iff (plain : facade.encrypt = false) (hashed : facade.hash = hashedKey sha256)
    (digest : ∀ key, (sha256 key).length = 32) {sectionName : String}
    (known : sectionName ∈ cacheSections) (key : String) (secret : Option String) :
    (∃ physical sectionKey, facade.getKey key secret = some physical ∧
      Shm.getKey (octets sectionName) (octets physical) = some sectionKey) ↔
      ¬(510 ≤ key.utf8ByteSize ∧ key.utf8ByteSize ≤ 511) := by
  rw [getKey_plain plain, hashed]
  have limit : keySizeMax = 512 := rfl
  by_cases large : keySizeMax ≤ key.utf8ByteSize
  · rw [if_pos large]
    obtain ⟨sectionKey, accepted⟩ := (getKey_octets known (hashedKey sha256 key)).mpr
      (by rw [hashedKey_size digest]; decide)
    exact ⟨fun _ => by omega, fun _ => ⟨_, sectionKey, rfl, accepted⟩⟩
  · rw [if_neg large]
    constructor
    · rintro ⟨physical, sectionKey, produced, accepted⟩
      obtain rfl := Option.some.inj produced
      have small := (getKey_octets known key).mp ⟨sectionKey, accepted⟩
      omega
    · intro outside
      obtain ⟨sectionKey, accepted⟩ := (getKey_octets known key).mpr (by omega)
      exact ⟨key, sectionKey, rfl, accepted⟩

end Limits

end Cache

/-! ## Storing and finding -/

namespace Shm

variable {hash : String → UInt64} {cfg : Config} {shm : Header}

/-- A value that fits is stored under an accepted key, and is found until it expires. -/
theorem WellFormed.set_get (wellFormed : WellFormed hash shm) {sectionName key sectionKey : String}
    (accepted : getKey sectionName key = some sectionKey) {value : String}
    (fits : valueFits cfg value = true) (expiry now : Int) {later : Int} (early : later < expiry) :
    ∃ shm' reply, Shm.set hash cfg shm {} sectionName key (some value) expiry now =
        some (shm', reply) ∧ reply.ok = true ∧
      ∃ shm'' reply', Shm.get hash shm' {} sectionName key later = some (shm'', reply') ∧
        reply'.ok = true ∧ reply'.value = some value := by
  have sized : valueAccepted cfg (some value) = true := by simp [valueAccepted, fits]
  obtain ⟨shm', reply, ran, wellFormed', ok, -, effect⟩ :=
    @WellFormed.set hash cfg shm wellFormed {} rfl _ _ _ accepted (some value) sized expiry now
  obtain ⟨shm'', reply', read, -, ok', found⟩ :=
    @WellFormed.get hash shm' wellFormed' {} rfl _ _ _ accepted later
  have written : ∃ idx, Holds shm' idx sectionKey ∧ (shm'.slots idx).value = value ∧
      (shm'.slots idx).expires = expiry := by
    cases effect with
    | overwrite idx value holds edit named stored expires =>
        exact ⟨idx, ⟨⟨holds.1.1, edit.nslots ▸ holds.1.2⟩, named⟩, stored, expires⟩
    | insert idx value absent inside source edit named stored expires =>
        exact ⟨idx, ⟨⟨inside.1, edit.nslots ▸ inside.2⟩, named⟩, stored, expires⟩
  obtain ⟨idx, holds, stored, expires⟩ := written
  have same {idx' : Nat} (holds' : Holds shm' idx' sectionKey) : idx' = idx :=
    wellFormed'.holds_unique (getKey_ne_empty accepted) holds' holds
  refine ⟨shm', reply, ran, ok, shm'', reply', read, ok', ?_⟩
  generalize reply'.value = answer at found ⊢
  cases found with
  | miss absent => exact absurd holds (absent idx)
  | hit idx' holds' => rw [same holds', stored]
  | expired idx' holds' stale =>
      rw [same holds', expires] at stale
      omega

end Shm

namespace Cache

open Shm (WellFormed)

/-- A key that is too long is not stored. -/
theorem shmSet_refused {κ β : Type} {facade : Facade κ β} {hash : String → UInt64}
    {cfg : Shm.Config}
    {passphrase : Util.Passphrase} {sectionName key physical : String}
    (produced : facade.getKey key passphrase.secret1 = some physical)
    (refused : Shm.getKey (octets sectionName) (octets physical) = none) (shm : Shm.Header)
    (mutex : Shm.Mutex) (value : Option String) (expiry now : Int) :
    shmSet facade hash cfg shm mutex passphrase none sectionName key value expiry now =
      some (shm, { ok := false }) := by
  have place : Facade.sectionGet none sectionName = sectionName := String.empty_append
  simp only [shmSet, produced, place, Shm.set, refused]

/-- A facade without encryption whose digests are the one of 512 letters `a`. -/
def plainFacade : Facade String String where
  hash := hashedKey fun _ =>
      [71, 27, 230, 85, 139, 102, 94, 79, 109, 212, 159, 17, 132, 129, 77, 20,
    145, 176, 49, 93, 70, 107, 238, 167, 104, 193, 83, 204, 85, 0, 200, 54]
  cjose := Util.Sample.cjose
  encrypt := false

/-- A key of many letters. -/
def longKey (length : Nat) : String := String.ofList (List.replicate length 'a')

theorem longKey_size (length : Nat) : (longKey length).utf8ByteSize = length := by
  rw [longKey, utf8ByteSize_ascii, List.length_replicate]
  intro c member
  rw [List.eq_of_mem_replicate member]
  decide

end Cache

end ModAuthOpenidc
