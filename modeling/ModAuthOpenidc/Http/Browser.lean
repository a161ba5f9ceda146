import ModAuthOpenidc.Http.Cookie

/-!
# The browser

The cookies a browser holds for the site, the `Cookie` header it sends and what it does with the
`Set-Cookie` headers of a response. The path and the domain of the site's cookies are taken to be
the same in all responses, so a cookie is identified by its name.
-/

namespace ModAuthOpenidc

namespace Http

/-- A cookie name can be told apart in a header: no separator and no leading blank. -/
def NameOk (name : String) : Prop :=
  '=' ∉ name.toList ∧ ';' ∉ name.toList ∧ name.toList.head? ≠ some ' '

instance (name : String) : Decidable (NameOk name) := inferInstanceAs (Decidable (_ ∧ _ ∧ _))

theorem nameOk_append {name suffix : String} (nameOk : NameOk name) (clean : NameOk suffix) :
    NameOk (name ++ suffix) := by
  obtain ⟨noEqual, noSemicolon, noBlank⟩ := nameOk
  obtain ⟨noEqual', noSemicolon', noBlank'⟩ := clean
  refine ⟨?_, ?_, ?_⟩
  · simp [noEqual, noEqual']
  · simp [noSemicolon, noSemicolon']
  · rw [String.toList_append, List.head?_append]
    cases first : name.toList.head? with
    | none => simpa using noBlank'
    | some letter => simpa [first] using noBlank

theorem nameOk_repr (i : Nat) : NameOk i.repr := by
  have digit {c : Char} (member : c ∈ i.repr.toList) : c.isDigit = true := by
    rw [Nat.toList_repr] at member
    exact Nat.isDigit_of_mem_toDigits (by decide) (by decide) member
  refine ⟨fun member => ?_, fun member => ?_, fun first => ?_⟩
  · simpa using digit member
  · simpa using digit member
  · simpa using digit (List.mem_of_head? first)

theorem nameOk_count {name : String} (nameOk : NameOk name) : NameOk (chunkCountName name) :=
  nameOk_append (nameOk_append nameOk (by decide)) (by decide)

theorem nameOk_chunk {name : String} (nameOk : NameOk name) (i : Nat) :
    NameOk (chunkCookieName name i) :=
  nameOk_append (nameOk_append nameOk (by decide)) (nameOk_repr i)

theorem append_ne_self {name suffix : String} (nonempty : suffix ≠ "") : name ++ suffix ≠ name := by
  intro same
  have lengths := congrArg String.length same
  rw [String.length_append] at lengths
  exact nonempty (String.length_eq_zero_iff.mp (by omega))

theorem chunkCountName_ne (name : String) : chunkCountName name ≠ name := by
  rw [chunkCountName, String.append_assoc]
  exact append_ne_self (by decide)

theorem chunkCookieName_ne (name : String) (i : Nat) : chunkCookieName name i ≠ name := by
  rw [chunkCookieName, String.append_assoc]
  apply append_ne_self
  intro empty
  have lengths := congrArg String.length empty
  rw [String.length_append] at lengths
  have underscore : "_".length = 1 := by decide
  simp only [underscore, String.length_empty] at lengths
  omega

/-- A cookie held by the browser. -/
structure Cookie where
  name : String
  value : String
  nameOk : NameOk name := by decide
  valueOk : ';' ∉ value.toList := by decide

/-- The cookies of the site, one for each name. -/
structure Jar where
  cookies : List Cookie
  distinct : (cookies.map Cookie.name).Nodup := by decide

namespace Cookie

/-- `name=value`. -/
def pair (cookie : Cookie) : List Char := cookie.name.toList ++ '=' :: cookie.value.toList

end Cookie

namespace Jar

variable {jar : Jar} {name : String}

/-- No cookies at all. -/
def empty : Jar where
  cookies := []

/-- The value of a cookie. -/
def get (jar : Jar) (name : String) : Option String :=
  (KeyedList.lookup Cookie.name jar.cookies name).map Cookie.value

/-- The parts of the header between the semicolons: all but the first start with a blank. -/
def segments : List Cookie → List (List Char)
  | [] => []
  | first :: rest => first.pair :: rest.map fun cookie => ' ' :: cookie.pair

/-- The `Cookie` header, absent when there is nothing to send. -/
def header (jar : Jar) : Option String :=
  match jar.cookies with
  | [] => none
  | cookies => some (String.ofList ([';'].intercalate (segments cookies)))

/-- Forget a cookie. -/
def remove (jar : Jar) (name : String) : Jar where
  cookies := KeyedList.erase Cookie.name jar.cookies name
  distinct := KeyedList.nodup_erase Cookie.name jar.distinct name

/-- Store a cookie: an older cookie of the same name is replaced where it is. -/
def put (jar : Jar) (cookie : Cookie) : Jar where
  cookies := KeyedList.upsert Cookie.name jar.cookies cookie
  distinct := KeyedList.nodup_upsert Cookie.name jar.distinct cookie

/-- What follows a semicolon belongs to the attributes of the cookie. -/
def cutValue (value : String) : String := String.ofList (value.toList.takeWhile (· ≠ ';'))

theorem cutValue_ok (value : String) : ';' ∉ (cutValue value).toList := by
  rw [cutValue, String.toList_ofList]
  intro member
  simpa using List.mem_takeWhile_imp member

/-- Apply one `Set-Cookie` header: an expired cookie is removed, any other is stored. -/
def apply (jar : Jar) (now : Int) (set : SetCookie) : Jar :=
  if set.expires.any fun expires => expires ≤ now then
    jar.remove set.name
  else if nameOk : NameOk set.name then
    jar.put
      { name := set.name
        value := cutValue set.value
        nameOk := nameOk
        valueOk := cutValue_ok set.value }
  else
    jar

/-- Apply the `Set-Cookie` headers of a response in order. -/
def applyAll (jar : Jar) (now : Int) (sets : List SetCookie) : Jar :=
  sets.foldl (fun jar set => jar.apply now set) jar

/-! ## What the module reads back -/

theorem dropBlanks_pair (cookie : Cookie) : cookie.pair.dropWhile (· = ' ') = cookie.pair := by
  have noBlank := cookie.nameOk.2.2
  unfold Cookie.pair
  cases letters : cookie.name.toList with
  | nil => simp
  | cons letter letters' =>
      have first : letter ≠ ' ' := by simpa [letters] using noBlank
      simp [first]

theorem cookieValue_pair (cookie : Cookie) (nameOk : NameOk name) :
    cookieValue name.toList cookie.pair =
      if cookie.name = name then some cookie.value.toList else none := by
  rw [cookieValue, dropBlanks_pair]
  split
  · next same =>
      rw [List.dropPrefix?_eq_some_iff]
      exact ⟨name.toList ++ ['='], by simp [Cookie.pair, same], by simp⟩
  · next different =>
      cases found : cookie.pair.dropPrefix? (name.toList ++ ['=']) with
      | none => rfl
      | some rest =>
          obtain ⟨front, split, matched⟩ := List.dropPrefix?_eq_some_iff.mp found
          obtain rfl := eq_of_beq matched
          rw [Cookie.pair, List.append_assoc, List.singleton_append] at split
          have names := (append_separator_inj cookie.nameOk.1 nameOk.1 split).1
          exact absurd (String.toList_inj.mp names) different

theorem cookieValue_blank (letters pair : List Char) :
    cookieValue letters (' ' :: pair) = cookieValue letters pair := by
  simp [cookieValue]

theorem findSome?_segments (letters : List Char) (cookies : List Cookie) :
    (segments cookies).findSome? (cookieValue letters) =
      cookies.findSome? fun cookie => cookieValue letters cookie.pair := by
  cases cookies with
  | nil => rfl
  | cons first rest =>
      rw [segments, List.findSome?_cons, List.findSome?_cons, List.findSome?_map]
      simp only [Function.comp_def, cookieValue_blank]

theorem mem_segments {cookies : List Cookie} {segment : List Char}
    (member : segment ∈ segments cookies) : ';' ∉ segment ∧ segment ≠ [] := by
  have pairOk (cookie : Cookie) : ';' ∉ cookie.pair ∧ cookie.pair ≠ [] := by
    refine ⟨?_, by simp [Cookie.pair]⟩
    simp [Cookie.pair, cookie.nameOk.2.1, cookie.valueOk]
  cases cookies with
  | nil => simp [segments] at member
  | cons first rest =>
      rcases List.mem_cons.mp member with rfl | later
      · exact pairOk first
      · obtain ⟨cookie, -, rfl⟩ := List.mem_map.mp later
        refine ⟨?_, by simp⟩
        simpa using (pairOk cookie).1

/-- The header scan finds exactly the cookie of the given name. -/
theorem getCookie_header (jar : Jar) (nameOk : NameOk name) :
    getCookie jar.header name = jar.get name := by
  obtain ⟨cookies, distinct⟩ := jar
  cases cookies with
  | nil => rfl
  | cons first rest =>
      have tokens := strtok_intercalate
        (fun part (member : part ∈ segments (first :: rest)) => (mem_segments member).1)
        (fun part member => (mem_segments member).2)
      simp only [getCookie, header, Option.bind_some, String.toList_ofList, tokens,
        findSome?_segments, cookieValue_pair _ nameOk, get]
      generalize first :: rest = cookies
      induction cookies with
      | nil => rfl
      | cons cookie cookies ih =>
          rw [List.findSome?_cons, KeyedList.lookup_cons]
          by_cases same : cookie.name = name
          · simp [same]
          · simpa only [same, if_false] using ih

theorem get_remove (jar : Jar) (name other : String) :
    (jar.remove name).get other = if other = name then none else jar.get other := by
  rw [get, remove, KeyedList.lookup_erase, get]
  split <;> rfl

theorem get_put (jar : Jar) (cookie : Cookie) (other : String) :
    (jar.put cookie).get other = if other = cookie.name then some cookie.value
    else jar.get other := by
  rw [get, put, KeyedList.lookup_upsert, get]
  split <;> rfl

/-- A header with an acceptable name which has not expired stores its cookie. -/
theorem get_apply_store {set : SetCookie} {now : Int}
    (fresh : set.expires.any (fun expires => expires ≤ now) = false) (nameOk : NameOk set.name)
    (jar : Jar) (other : String) :
    (jar.apply now set).get other =
      if other = set.name then some (cutValue set.value) else jar.get other := by
  rw [apply, if_neg (by simp [fresh]), dif_pos nameOk, get_put]

/-- What a browser holds after a header it either held before or got from the header. -/
theorem get_apply_some {set : SetCookie} {now : Int} {jar : Jar} {name value : String}
    (held : (jar.apply now set).get name = some value) :
    jar.get name = some value ∨ (name = set.name ∧ value = cutValue set.value) := by
  unfold apply at held
  split at held
  · rw [get_remove] at held
    split at held
    · cases held
    · exact .inl held
  · split at held
    · rw [get_put] at held
      split at held
      · next same => exact .inr ⟨same, (Option.some.inj held).symm⟩
      · exact .inl held
    · exact .inl held

/-- The same for all headers of a response. -/
theorem get_applyAll_some {sets : List SetCookie} {now : Int} {jar : Jar} {name value : String}
    (held : (jar.applyAll now sets).get name = some value) :
    jar.get name = some value ∨ ∃ set ∈ sets, value = cutValue set.value := by
  induction sets generalizing jar with
  | nil => exact .inl held
  | cons set sets ih =>
      rcases ih held with earlier | ⟨other, member, rfl⟩
      · rcases get_apply_some earlier with before | ⟨-, rfl⟩
        · exact .inl before
        · exact .inr ⟨set, List.mem_cons_self, rfl⟩
      · exact .inr ⟨other, List.mem_cons_of_mem _ member, rfl⟩

theorem cutValue_of_clean {value : String} (clean : ';' ∉ value.toList) :
    cutValue value = value := by
  have kept : ∀ c ∈ value.toList, decide (c ≠ ';') = true := by
    intro c member
    exact decide_eq_true fun same => clean (same ▸ member)
  rw [cutValue, List.takeWhile_eq_self_iff.mpr kept, String.ofList_toList]

/-! ## Removals -/

/-- A `Set-Cookie` header which makes the browser forget the cookie. -/
def IsRemoval (set : SetCookie) : Prop := set.expires = some 0

theorem setCookie_removal (context : CookieContext) (name : String) (expires : Int)
    (ext : Option String) : IsRemoval (setCookie context name "" expires ext) := by
  simp [IsRemoval, setCookie]

theorem apply_removal {set : SetCookie} (removal : IsRemoval set) (jar : Jar) {now : Int}
    (positive : 0 ≤ now) : jar.apply now set = jar.remove set.name := by
  rw [apply, removal]
  simp [positive]

/-- Removals take away exactly the named cookies. -/
theorem get_applyAll_removals {sets : List SetCookie} (removals : ∀ set ∈ sets, IsRemoval set)
    (jar : Jar) {now : Int} (positive : 0 ≤ now) (name : String) :
    (jar.applyAll now sets).get name =
      if name ∈ sets.map SetCookie.name then none else jar.get name := by
  induction sets generalizing jar with
  | nil => simp [applyAll]
  | cons set sets ih =>
      have rest := ih (fun other member => removals other (List.mem_cons_of_mem _ member))
        (jar.apply now set)
      rw [applyAll, List.foldl_cons]
      change ((jar.apply now set).applyAll now sets).get name = _
      rw [rest, apply_removal (removals set List.mem_cons_self) jar positive, get_remove]
      simp only [List.map_cons, List.mem_cons]
      by_cases later : name ∈ sets.map SetCookie.name
      · simp [later]
      · by_cases here : name = set.name
        · simp [here]
        · simp [later, here]

end Jar

end Http

end ModAuthOpenidc
