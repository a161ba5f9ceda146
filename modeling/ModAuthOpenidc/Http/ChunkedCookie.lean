import ModAuthOpenidc.Http.Browser

/-!
# A store in chunk cookies

`oidc_http_set_chunked_cookie` writes a value to one cookie or, if it is long, to a number of chunk
cookies and a cookie with their number. One cookie name is written to time and again, with values of
any length, and the browser applies each time what it is told. This file shows what
`oidc_http_get_chunked_cookie` reads back after such a history.
-/

namespace ModAuthOpenidc

namespace Http

/-! ## A browser without a clock -/

namespace Jar

/-- What a browser stores of a header is fit for a cookie. -/
theorem received_ok (set : SetCookie) : ';' ∉ (cutValue set.value).toList := cutValue_ok set.value

/-- Apply one `Set-Cookie` header: an empty value removes the cookie, any other is stored. -/
def receive (jar : Jar) (set : SetCookie) : Jar :=
  if set.value = "" then
    jar.remove set.name
  else if nameOk : NameOk set.name then
    jar.put
      { name := set.name
        value := cutValue set.value
        nameOk := nameOk
        valueOk := received_ok set }
  else
    jar

/-- Apply the headers of a response in order. -/
def receiveAll (jar : Jar) (sets : List SetCookie) : Jar := sets.foldl receive jar

/-- A browser with a clock does the same with a cookie that has not expired. -/
theorem apply_setCookie (jar : Jar) (context : CookieContext) (name value : String)
    {expires now : Int}
    (ext : Option String) (positive : 0 ≤ now) (lasting : expires = -1 ∨ now < expires) :
    jar.apply now (setCookie context name value expires ext) =
      jar.receive (setCookie context name value expires ext) := by
  by_cases empty : value = ""
  · subst empty
    rw [apply_removal (setCookie_removal ..) jar positive, receive]
    exact (if_pos rfl).symm
  · have fresh : (setCookie context name value expires ext).expires.any
        (fun expires => expires ≤ now) = false := by
      simp only [setCookie, empty, if_false]
      split
      · rfl
      · next dated =>
          have later := lasting.resolve_left dated
          simpa using later
    rw [apply, if_neg (by simp [fresh]), receive]
    exact (if_neg empty).symm

/-- What a header leaves in the cookie it names. -/
def left (set : SetCookie) : Option String :=
  if set.value = "" then none else some (cutValue set.value)

theorem get_receive {set : SetCookie} (nameOk : NameOk set.name) (jar : Jar) (other : String) :
    (jar.receive set).get other = if other = set.name then left set else jar.get other := by
  rw [receive, dif_pos nameOk, left]
  split
  · rw [get_remove]
  · rw [get_put]

theorem receiveAll_cons (jar : Jar) (set : SetCookie) (sets : List SetCookie) :
    jar.receiveAll (set :: sets) = (jar.receive set).receiveAll sets := rfl

/-- A cookie that no header names stays as it is. -/
theorem get_receiveAll_of_notMem {sets : List SetCookie} (namesOk : ∀ set ∈ sets, NameOk set.name)
    (jar : Jar) {other : String} (absent : other ∉ sets.map SetCookie.name) :
    (jar.receiveAll sets).get other = jar.get other := by
  induction sets generalizing jar with
  | nil => rfl
  | cons set sets ih =>
      rw [List.map_cons, List.mem_cons, not_or] at absent
      rw [receiveAll_cons, ih
        (fun set member => namesOk set (List.mem_cons_of_mem _ member)) _ absent.2,
        get_receive (namesOk set List.mem_cons_self), if_neg absent.1]

/-- If no two headers name the same cookie, each of them takes effect. -/
theorem get_receiveAll_of_mem {sets : List SetCookie} (namesOk : ∀ set ∈ sets, NameOk set.name)
    (distinct : (sets.map SetCookie.name).Nodup) (jar : Jar) {set : SetCookie}
    (member : set ∈ sets) :
    (jar.receiveAll sets).get set.name = left set := by
  induction sets generalizing jar with
  | nil => cases member
  | cons first sets ih =>
      rw [List.map_cons, List.nodup_cons] at distinct
      have later : ∀ set ∈ sets, NameOk set.name :=
        fun set member => namesOk set (List.mem_cons_of_mem _ member)
      rw [receiveAll_cons]
      rcases List.mem_cons.mp member with rfl | rest
      · rw [get_receiveAll_of_notMem later _ distinct.1,
          get_receive (namesOk set List.mem_cons_self),
          if_pos rfl]
      · exact ih later distinct.2 _ rest

end Jar

/-! ## The names of the cookies -/

section Names

variable {name : String}

theorem append_left_inj {front back back' : String} (same : front ++ back = front ++ back') :
    back = back' := by
  have letters := congrArg String.toList same
  rw [String.toList_append, String.toList_append] at letters
  exact String.toList_inj.mp (List.append_cancel_left letters)

theorem chunkCookieName_inj {i j : Nat} (same : chunkCookieName name i = chunkCookieName name j) :
    i = j :=
  Nat.repr_inj.mp (append_left_inj same)

/-- A number is not a word. -/
theorem chunkCookieName_ne_count (name : String) (i : Nat) :
    chunkCookieName name i ≠ chunkCountName name := by
  intro same
  have word : i.repr = "chunks" := append_left_inj same
  have letter : 'c' ∈ i.repr.toList := by
    rw [word]
    decide
  rw [Nat.toList_repr] at letter
  have digit := Nat.isDigit_of_mem_toDigits (by decide) (by decide) letter
  revert digit
  decide

/-- All cookies of a store have names of their own. -/
theorem names_nodup (name : String) (count : Nat) :
    (name :: chunkCountName name :: (List.range count).map (chunkCookieName name)).Nodup := by
  have chunks : ((List.range count).map (chunkCookieName name)).Nodup :=
    List.nodup_range.map fun _ _ => chunkCookieName_inj
  refine List.nodup_cons.mpr ⟨?_, List.nodup_cons.mpr ⟨?_, chunks⟩⟩
  · rw [List.mem_cons, not_or]
    refine ⟨(chunkCountName_ne name).symm, fun member => ?_⟩
    obtain ⟨i, -, same⟩ := List.mem_map.mp member
    exact chunkCookieName_ne name i same
  · intro member
    obtain ⟨i, -, same⟩ := List.mem_map.mp member
    exact chunkCookieName_ne_count name i same

end Names

/-! ## The chunks of a value -/

section Chunks

/-- The pieces of a text, one after the other. -/
theorem flatMap_pieces (text : List Char) (size count : Nat) :
    (List.range count).flatMap (fun i => (text.drop (i * size)).take size) =
      text.take (count * size) := by
  induction count with
  | zero => simp
  | succ count ih =>
      rw [List.range_succ, List.flatMap_append, ih, Nat.succ_mul, List.take_add]
      simp

/-- Enough chunks make up the value. -/
theorem join_chunks {value : String} {size count : Nat} (all : value.length ≤ count * size) :
    String.join ((List.range count).map (chunk value size)) = value := by
  have whole : value.toList.take (count * size) = value.toList :=
    List.take_of_length_le (by rwa [String.length_toList])
  rw [← String.toList_inj, String.toList_join, List.flatMap_map]
  simp only [chunk, String.toList_ofList]
  rw [flatMap_pieces, whole]

theorem chunk_clean {value : String} (clean : ';' ∉ value.toList) (size i : Nat) :
    ';' ∉ (chunk value size i).toList := by
  rw [chunk, String.toList_ofList]
  exact fun member => clean (List.mem_of_mem_drop (List.mem_of_mem_take member))

theorem chunk_ne_empty {value : String} {size i : Nat} (positive : 0 < size)
    (inside : i * size < value.length) : chunk value size i ≠ "" := by
  intro empty
  have none_left := congrArg (fun text => text.toList.length) empty
  simp only [chunk, String.toList_ofList, List.length_take, List.length_drop, String.length_toList,
    String.toList_empty, List.length_nil] at none_left
  omega

theorem mapM_eq_some {α β : Type} {f : α → Option β} {g : α → β} {items : List α}
    (all : ∀ item ∈ items, f item = some (g item)) : items.mapM f = some (items.map g) := by
  induction items with
  | nil => rfl
  | cons item items ih =>
      rw [List.mapM_cons, all item List.mem_cons_self,
        ih fun other member => all other (List.mem_cons_of_mem _ member)]
      rfl

end Chunks

/-! ## The store -/

/-- One call of `oidc_http_set_chunked_cookie`, but for the cookie name and the size of the chunks.
-/
structure ChunkedWrite where
  context : CookieContext := {}
  value : String
  expires : Int := -1
  ext : Option String := none

/-- A browser, with the values that were written and the results of the calls, the last one first.
-/
structure ChunkedStore where
  jar : Jar
  history : List (String × Bool)

namespace ChunkedStore

/-- Nothing was written. -/
def empty : ChunkedStore where
  jar := Jar.empty
  history := []

/-- One call, with the cookies of the browser, which then applies the headers. -/
def write (name : String) (chunkSize : Nat) (store : ChunkedStore) (call : ChunkedWrite) :
    ChunkedStore :=
  let result := setChunkedCookie call.context store.jar.header name call.value
    call.expires chunkSize
    call.ext
  { jar := store.jar.receiveAll result.1, history := (call.value, result.2) :: store.history }

/-- One call after the other. -/
def run (name : String) (chunkSize : Nat) (calls : List ChunkedWrite) : ChunkedStore :=
  calls.foldl (write name chunkSize) empty

end ChunkedStore

/-- The value of the last call that returned `TRUE`, unless that call has cleared the cookie. -/
def lastStored : List (String × Bool) → Option String
  | [] => none
  | (value, rc) :: earlier =>
      if rc then (if value = "" then none else some value) else lastStored earlier

/-- The browser holds a value. -/
inductive Holds (name : String) (chunkSize : Nat) (jar : Jar) : Option String → Prop
  /-- There is none. -/
  | nothing (base : jar.get name = none) (counter : jar.get (chunkCountName name) = none) :
      Holds name chunkSize jar none
  /-- It is in one cookie. -/
  | whole {value : String} (base : jar.get name = some value)
      (counter : jar.get (chunkCountName name) = none) : Holds name chunkSize jar (some value)
  /-- It is in chunk cookies.  There may be further ones that are not counted. -/
  | chunks {value : String} (count : Nat) (positive : 0 < count) (most : count ≤ 99)
      (chunked : chunkSize ≠ 0) (counter : jar.get (chunkCountName name) = some count.repr)
      (parts : ∀ i < count, jar.get (chunkCookieName name i) = some (chunk value chunkSize i))
      (all : value.length ≤ count * chunkSize) : Holds name chunkSize jar (some value)

/-- The numbers that are written as counters are read back. -/
theorem strToInt_repr :
    ∀ count ≤ 99, strToInt (some (Nat.repr count)) 0 = count := by decide +kernel

section Reading

variable {name : String} {chunkSize : Nat} {jar : Jar} {value : Option String}

theorem getChunkedCount_eq (nameOk : NameOk name) (jar : Jar) :
    getChunkedCount jar.header name = strToInt (jar.get (chunkCountName name)) 0 := by
  rw [getChunkedCount, Jar.getCookie_header _ (nameOk_count nameOk)]

/-- What is held is read. -/
theorem Holds.read (holds : Holds name chunkSize jar value) (nameOk : NameOk name) :
    getChunkedCookie jar.header name chunkSize = value := by
  have noCount : strToInt none 0 = 0 := rfl
  cases holds with
  | nothing base counter =>
      rw [getChunkedCookie, Jar.getCookie_header _ nameOk, base, getChunkedCount_eq nameOk, counter,
        noCount]
      exact ite_self _
  | whole base counter =>
      rw [getChunkedCookie, Jar.getCookie_header _ nameOk, base, getChunkedCount_eq nameOk, counter,
        noCount]
      exact ite_self _
  | @chunks value count positive most chunked counter parts all =>
      have read : joinChunks jar.header name count = some value := by
        rw [joinChunks, mapM_eq_some (g := chunk value chunkSize) ?_, Option.map_some,
          join_chunks all]
        intro i member
        rw [Jar.getCookie_header _ (nameOk_chunk nameOk i), parts i (List.mem_range.mp member)]
      rw [getChunkedCookie, if_neg chunked, getChunkedCount_eq nameOk, counter,
        strToInt_repr count most]
      dsimp only
      rw [if_neg (by omega), if_neg (by simp only [chunksMax]; omega), Int.toNat_natCast, read]

end Reading

/-! ## One call -/

/-- The value is not so long that an `int` overflows. -/
def Fits (chunkSize : Nat) (value : String) : Prop :=
  chunkSize = 0 ∨ value.length < chunkSize ∨ value.length + chunkSize ≤ 2 ^ 31

section Writing

variable {name : String} {chunkSize : Nat} {jar : Jar} {held : Option String}

theorem left_setCookie (context : CookieContext) (name : String) {value : String}
    (clean : ';' ∉ value.toList) (expires : Int) (ext : Option String) :
    Jar.left (setCookie context name value expires ext) =
        if value = "" then none else some value := by
  simp only [Jar.left, setCookie, Jar.cutValue_of_clean clean]

/-- If the headers name all cookies of a store once, each of them takes effect. -/
theorem get_receiveAll_store (nameOk : NameOk name) {sets : List SetCookie} (count : Nat)
    (names : (sets.map SetCookie.name).Perm
      (name :: chunkCountName name :: (List.range count).map (chunkCookieName name)))
    (jar : Jar) (set : SetCookie) (member : set ∈ sets) :
    (jar.receiveAll sets).get set.name = Jar.left set := by
  refine Jar.get_receiveAll_of_mem (fun set member => ?_)
    (names.nodup_iff.mpr (names_nodup name count)) jar member
  have named := names.subset (List.mem_map_of_mem member)
  rw [List.mem_cons, List.mem_cons] at named
  rcases named with same | same | chunk
  · rwa [same]
  · rw [same]
    exact nameOk_count nameOk
  · obtain ⟨i, -, same⟩ := List.mem_map.mp chunk
    rw [← same]
    exact nameOk_chunk nameOk i

/-- Writing the base cookie and clearing the chunk cookies leaves the base cookie only. -/
theorem Holds.clear (holds : Holds name chunkSize jar held) (nameOk : NameOk name)
    (context : CookieContext) {value : String} (clean : ';' ∉ value.toList) (expires : Int)
    (ext : Option String) :
    Holds name chunkSize (jar.receiveAll (setCookie context name value expires ext ::
      clearChunkedCookie context jar.header name expires ext))
      (if value = "" then none else some value) := by
  have kept : ∀ {after : Jar}, after.get name = (if value = "" then none else some value) →
      after.get (chunkCountName name) = none →
      Holds name chunkSize after (if value = "" then none else some value) := by
    intro after base counter
    split at base
    · next empty =>
        rw [if_pos empty]
        exact .nothing base counter
    · next filled =>
        rw [if_neg filled]
        exact .whole base counter
  have written := left_setCookie context name clean expires ext
  have uncounted : jar.get (chunkCountName name) = none →
      Holds name chunkSize (jar.receiveAll (setCookie context name value expires ext ::
        clearChunkedCookie context jar.header name expires ext))
        (if value = "" then none else some value) := by
    intro counter
    have zero : getChunkedCount jar.header name = 0 := by
      rw [getChunkedCount_eq nameOk, counter]
      rfl
    have nothing : clearChunkedCookie context jar.header name expires ext = [] := by
      rw [clearChunkedCookie, zero]
      rfl
    rw [nothing, Jar.receiveAll_cons]
    refine kept ?_ ?_
    · exact (Jar.get_receive nameOk jar name).trans ((if_pos rfl).trans written)
    · exact (Jar.get_receive nameOk jar _).trans ((if_neg (chunkCountName_ne name)).trans counter)
  cases holds with
  | nothing base counter => exact uncounted counter
  | whole base counter => exact uncounted counter
  | chunks count positive most chunked counter parts all =>
      have counted : getChunkedCount jar.header name = count := by
        rw [getChunkedCount_eq nameOk, counter, strToInt_repr count most]
      have removals : clearChunkedCookie context jar.header name expires ext =
          (List.range count).map
            (fun i => setCookie context (chunkCookieName name i) "" expires ext) ++
          [setCookie context (chunkCountName name) "" expires ext] := by
        rw [clearChunkedCookie, counted, if_pos (by omega), Int.toNat_natCast]
      rw [removals]
      generalize listed : setCookie context name value expires ext :: ((List.range count).map
        (fun i => setCookie context (chunkCookieName name i) "" expires ext) ++
        [setCookie context (chunkCountName name) "" expires ext]) = sets
      have names : sets.map SetCookie.name =
          name :: ((List.range count).map (chunkCookieName name) ++ [chunkCountName name]) := by
        rw [← listed]
        simp [setCookie, Function.comp_def]
      have all : (sets.map SetCookie.name).Perm
          (name :: chunkCountName name :: (List.range count).map (chunkCookieName name)) := by
        rw [names]
        exact .cons name List.perm_append_comm
      have read := get_receiveAll_store nameOk count all jar
      refine kept ?_ ?_
      · have first : setCookie context name value expires ext ∈ sets := by simp [← listed]
        exact (read _ first).trans written
      · have last : setCookie context
          (chunkCountName name) "" expires ext ∈ sets := by simp [← listed]
        exact (read _ last).trans (if_pos rfl)

/-- Without overflow the number of chunks is the length divided by their size, rounded up. -/
theorem chunkCount_eq (length size : Nat) (nonempty : 0 < length) (small : length + size ≤ 2 ^ 31) :
    (((length : Int) + size - 1).bmod (2 ^ 32)).tdiv size = ((length + size - 1) / size : Nat) := by
  have sum : ((length : Int) + size - 1).bmod (2 ^ 32) = (length + size - 1 : Nat) := by
    rw [Int.bmod_eq_of_le (by omega) (by omega)]
    omega
  rw [sum]
  rfl

/-- The chunks cover the value, and none of them is empty. -/
theorem chunkCount_bounds {length size : Nat} (nonempty : 0 < length) (positive : 0 < size) :
    length ≤ (length + size - 1) / size * size ∧
      ∀ i < (length + size - 1) / size, i * size < length := by
  have below : (length + size - 1) / size * size ≤ length + size - 1 := Nat.div_mul_le_self _ _
  have above : length + size - 1 < ((length + size - 1) / size + 1) * size :=
    Nat.lt_mul_of_div_lt (Nat.lt_succ_self _) positive
  rw [Nat.succ_mul] at above
  refine ⟨by omega, fun i inside => ?_⟩
  have next : (i + 1) * size ≤ (length + size - 1) / size * size := Nat.mul_le_mul_right size inside
  rw [Nat.succ_mul] at next
  omega

/-- Writing the chunks leaves the value in the chunk cookies. -/
theorem Holds.store (nameOk : NameOk name) (context : CookieContext) {value : String}
    (clean : ';' ∉ value.toList) (nonempty : 0 < value.length) (chunked : chunkSize ≠ 0)
    (most : (value.length + chunkSize - 1) / chunkSize ≤ 99) (expires : Int) (ext : Option String)
    (jar : Jar) :
    Holds name chunkSize (jar.receiveAll
      ((List.range ((value.length + chunkSize - 1) / chunkSize)).map
          (fun i => setCookie context (chunkCookieName name i)
              (chunk value chunkSize i) expires ext) ++
        [setCookie context (chunkCountName name) (((value.length + chunkSize - 1) / chunkSize).repr)
          expires ext, setCookie context name "" expires ext])) (some value) := by
  have positive : 0 < chunkSize := Nat.pos_of_ne_zero chunked
  obtain ⟨covered, inside⟩ := chunkCount_bounds nonempty positive
  generalize (value.length + chunkSize - 1) / chunkSize = count at most covered inside ⊢
  have counts : 0 < count := by
    rcases Nat.eq_zero_or_pos count with rfl | counts
    · omega
    · exact counts
  generalize listed : ((List.range count).map (fun i =>
      setCookie context (chunkCookieName name i) (chunk value chunkSize i) expires ext) ++
    [setCookie context (chunkCountName name) count.repr expires ext,
      setCookie context name "" expires ext]) = sets
  have names : sets.map SetCookie.name =
      (List.range count).map (chunkCookieName name) ++ [chunkCountName name, name] := by
    rw [← listed]
    simp [setCookie, Function.comp_def]
  have all : (sets.map SetCookie.name).Perm
      (name :: chunkCountName name :: (List.range count).map (chunkCookieName name)) := by
    rw [names]
    exact List.perm_append_comm.trans (.swap _ _ _)
  have read := get_receiveAll_store nameOk count all jar
  refine .chunks count counts most chunked ?_ (fun i lower => ?_) covered
  · have counter : setCookie context (chunkCountName name) count.repr expires ext ∈ sets := by
      simp [← listed]
    have digits : ';' ∉ count.repr.toList := (nameOk_repr count).2.1
    have filled : count.repr ≠ "" := Nat.repr_ne_empty
    exact (read _ counter).trans
      ((left_setCookie context _ digits expires ext).trans (if_neg filled))
  · have part : setCookie context (chunkCookieName name i) (chunk value chunkSize i) expires ext ∈
        sets := by
      rw [← listed]
      exact List.mem_append_left _ (List.mem_map.mpr ⟨i, List.mem_range.mpr lower, rfl⟩)
    exact (read _ part).trans
      ((left_setCookie context _ (chunk_clean clean chunkSize i) expires ext).trans
        (if_neg (chunk_ne_empty positive (inside i lower))))

/-- A call that returns `FALSE` emits nothing. -/
theorem write_refused {store : ChunkedStore} {call : ChunkedWrite}
    (refused : (setChunkedCookie call.context store.jar.header name call.value
    call.expires chunkSize
      call.ext).2 = false) : (store.write name chunkSize call).jar = store.jar := by
  unfold ChunkedStore.write
  unfold setChunkedCookie at refused ⊢
  dsimp only at refused ⊢
  split at refused
  · cases refused
  · next plain =>
      rw [if_neg plain]
      split at refused
      · cases refused
      · next full =>
          rw [if_neg full]
          split at refused
          · next many =>
              rw [if_pos many]
              rfl
          · cases refused

end Writing

section Histories

variable {name : String} {chunkSize : Nat}

theorem lengthInt_eq {value : String} (small : value.length < 2 ^ 31) :
    lengthInt value = value.length :=
  Int.bmod_eq_of_le (by omega) (by omega)

/-- One call keeps track of the value. -/
theorem write_holds (nameOk : NameOk name) (size : (chunkSize : Int) ≤ intMax)
    {store : ChunkedStore}
    (holds : Holds name chunkSize store.jar (lastStored store.history)) {call : ChunkedWrite}
    (clean : ';' ∉ call.value.toList) (fits : Fits chunkSize call.value) :
    Holds name chunkSize (store.write name chunkSize call).jar
      (lastStored (store.write name chunkSize call).history) := by
  have cleared := holds.clear nameOk call.context clean call.expires call.ext
  have empty_iff : call.value = "" ↔ call.value.length = 0 := String.length_eq_zero_iff.symm
  unfold ChunkedStore.write setChunkedCookie
  dsimp only
  split
  · exact cleared
  · next long =>
      rw [not_or] at long
      obtain ⟨chunked, long⟩ := long
      have positive : 0 < chunkSize := Nat.pos_of_ne_zero chunked
      have limit : intMax = 2 ^ 31 - 1 := rfl
      have exactly : lengthInt call.value = call.value.length := by
        apply lengthInt_eq
        rcases fits with none_at_all | short | small
        · exact absurd none_at_all chunked
        · omega
        · omega
      rw [exactly] at long ⊢
      split
      · next zero =>
          have empty : call.value = "" := empty_iff.mpr (by omega)
          rw [empty] at cleared
          simpa [lastStored, empty] using cleared
      · next filled =>
          have small : call.value.length + chunkSize ≤ 2 ^ 31 := by
            rcases fits with none_at_all | short | small
            · exact absurd none_at_all chunked
            · omega
            · exact small
          rw [chunkCount_eq call.value.length chunkSize (by omega) small]
          split
          · exact holds
          · next most =>
              have some_letters : 0 < call.value.length := by omega
              have stored : lastStored ((call.value, true) :: store.history) = some call.value := by
                rw [lastStored, if_pos rfl, if_neg (mt empty_iff.mp (by omega))]
              rw [stored, Int.toNat_natCast]
              refine Holds.store nameOk call.context clean some_letters chunked ?_
                call.expires call.ext
                store.jar
              simp only [chunksMax] at most
              omega

theorem foldl_holds (nameOk : NameOk name) (size : (chunkSize : Int) ≤ intMax)
    {calls : List ChunkedWrite} (clean : ∀ call ∈ calls, ';' ∉ call.value.toList)
    (fits : ∀ call ∈ calls, Fits chunkSize call.value) {store : ChunkedStore}
    (holds : Holds name chunkSize store.jar (lastStored store.history)) :
    Holds name chunkSize (calls.foldl (ChunkedStore.write name chunkSize) store).jar
      (lastStored (calls.foldl (ChunkedStore.write name chunkSize) store).history) := by
  induction calls generalizing store with
  | nil => exact holds
  | cons call calls ih =>
      rw [List.foldl_cons]
      exact ih (fun call member => clean call (List.mem_cons_of_mem _ member))
        (fun call member => fits call (List.mem_cons_of_mem _ member))
        (write_holds nameOk size holds (clean call List.mem_cons_self)
            (fits call List.mem_cons_self))

/-- After any history of calls with values that are not too long, the value is read that was stored
last, and none if that call has cleared the cookie; a further call that returns `FALSE` leaves the
browser as it is. -/
theorem getChunkedCookie_run (nameOk : NameOk name) (size : (chunkSize : Int) ≤ intMax)
    {calls : List ChunkedWrite} (clean : ∀ call ∈ calls, ';' ∉ call.value.toList)
    (fits : ∀ call ∈ calls, Fits chunkSize call.value) :
    let store := ChunkedStore.run name chunkSize calls
    getChunkedCookie store.jar.header name chunkSize = lastStored store.history ∧
      ∀ call, (setChunkedCookie call.context store.jar.header name call.value call.expires chunkSize
        call.ext).2 = false → (store.write name chunkSize call).jar = store.jar := by
  intro store
  have initial : Holds name chunkSize ChunkedStore.empty.jar
    (lastStored ChunkedStore.empty.history) :=
    .nothing rfl rfl
  exact ⟨(foldl_holds nameOk size clean fits initial).read nameOk, fun call => write_refused⟩

end Histories

/-- A long value, a short one, none, and one that fills two chunks. -/
def sampleWrites : List ChunkedWrite :=
  [{ value := "abcdefghij" }, { value := "xyz" }, { value := "" }, { value := "lmnopqrs" }]

theorem getChunkedCookie_run_sample :
    getChunkedCookie (ChunkedStore.run "session" 4 sampleWrites).jar.header "session" 4 =
      some "lmnopqrs" := by
  have read := (getChunkedCookie_run (by decide) (by decide)
    (show ∀ call ∈ sampleWrites, ';' ∉ call.value.toList by decide +kernel)
    (show ∀ call ∈ sampleWrites, Fits 4 call.value by unfold Fits; decide +kernel) :
      getChunkedCookie (ChunkedStore.run "session" 4 sampleWrites).jar.header "session" 4 = _ ∧ _).1
  rw [read]
  decide +kernel

/-- The length of a value of 2 GiB is negative as an `int`, and so is the number of its chunks. -/
theorem setChunkedCookie_overflow {value : String} (length : value.length = 2147483648)
    (context : CookieContext) (header : Option String) (name : String) (expires : Int)
    (ext : Option String) :
    setChunkedCookie context header name value expires 256 ext =
      ([setCookie context (chunkCountName name) "-8388607" expires ext,
        setCookie context name "" expires ext], true) := by
  have negative : lengthInt value = -2147483648 := by
    unfold lengthInt
    rw [length]
    norm_num [Int.bmod]
  have count : ((-2147483648 + ((256 : Nat) : Int) - 1).bmod (2 ^ 32)).tdiv
    (256 : Nat) = -8388607 := by
    decide
  have text : toString (-8388607 : Int) = "-8388607" := by decide +kernel
  have few : ¬chunksMax < -8388607 := by decide
  have no_chunks : List.range (-8388607 : Int).toNat = [] := rfl
  rw [setChunkedCookie, negative]
  dsimp only
  rw [if_neg (by decide), if_neg (by decide), count, if_neg few, no_chunks, text, List.map_nil,
    List.nil_append]

/-- A counter that is negative is refused. -/
theorem getChunkedCookie_negative : getChunkedCookie (Jar.empty.receiveAll
    [setCookie {} (chunkCountName "session") "-8388607" (-1) none,
      setCookie {} "session" "" (-1) none]).header "session" 256 = none := by
  decide +kernel

/-- What becomes of such a value. -/
theorem run_overflow {value : String} (length : value.length = 2147483648) :
    (ChunkedStore.run "session" 256 [{ value }]).history = [(value, true)] ∧
      getChunkedCookie (ChunkedStore.run "session" 256 [{ value }]).jar.header "session"
          256 = none := by
  have written := setChunkedCookie_overflow length {} Jar.empty.header "session" (-1) none
  rw [ChunkedStore.run, List.foldl_cons, List.foldl_nil, ChunkedStore.write, ChunkedStore.empty]
  dsimp only
  rw [written]
  exact ⟨rfl, getChunkedCookie_negative⟩

/-- A value of 2 GiB is stored successfully and cannot be read. -/
theorem overlong_value_lost : ∃ value, ';' ∉ String.toList value ∧
    lastStored (ChunkedStore.run "session" 256 [{ value }]).history = some value ∧
    getChunkedCookie (ChunkedStore.run "session" 256 [{ value }]).jar.header "session"
        256 = none := by
  have length : (String.ofList (List.replicate 2147483648 'a')).length = 2147483648 := by
    rw [String.length_ofList, List.length_replicate]
  have clean : ';' ∉ (String.ofList (List.replicate 2147483648 'a')).toList := by
    rw [String.toList_ofList]
    exact fun member => absurd (List.eq_of_mem_replicate member) (by decide)
  generalize String.ofList (List.replicate 2147483648 'a') = value at length clean
  have nonempty : value ≠ "" := by
    intro empty
    rw [empty] at length
    exact absurd length (by decide)
  obtain ⟨history, lost⟩ := run_overflow length
  refine ⟨value, clean, ?_, lost⟩
  rw [history, lastStored, if_pos rfl, if_neg nonempty]

end Http

end ModAuthOpenidc
