import ModAuthOpenidc.Http.Cookie
import ModAuthOpenidc.TextSearch

/-!
# Stripping cookies

Before a request is passed on, the cookies with certain names are taken out of its header. The
function that does so splits the header by itself; the cookies it leaves are those that the function
which reads a cookie would find.
-/

namespace ModAuthOpenidc

namespace Http

/-! ## The cookies of a header -/

/-- A cookie without the blanks in front of it. -/
def skipSpaces (token : List Char) : List Char := token.dropWhile (· = ' ')

/-- What stands in front of the value of a cookie. -/
def cookieKey (name : String) : List Char := name.toList ++ ['=']

/-- The segments of a header that are not blank. -/
def cookieSegments (header : Option String) : List (List Char) :=
  (((header.getD "").toList.splitOn ';').map skipSpaces).filter (· ≠ [])

/-! ## Stripping -/

/-- `oidc_strip_cookies_match`: the first of the names that a cookie has. -/
def stripCookiesMatch (cookie : List Char) (strip : List String) : Option String :=
  strip.find? fun name => cookieKey name <+: cookie

/-- The loop of `oidc_strip_cookies` over the tokens. -/
def stripCookiesLoop (strip : List String) : List (List Char) → Option (List Char) →
    Option (List Char)
  | [], result => result
  | token :: tokens, result =>
      if skipSpaces token = [] ∨ (stripCookiesMatch (skipSpaces token) strip).isSome then
        stripCookiesLoop strip tokens result
      else
        stripCookiesLoop strip tokens (some (result.elim (skipSpaces token) fun result =>
          result ++ ';' :: ' ' :: skipSpaces token))

/-- `oidc_http_hdr_value_sanitize`. -/
def hdrValueSanitize (value : List Char) : List Char :=
  value.map fun c => if c = '\r' ∨ c = '\n' then ' ' else c

/-- `oidc_strip_cookies`: the header afterwards. -/
def stripCookies (strip : Option (List String)) (header : Option String) : Option String :=
  match header, strip with
  | some cookies, some strip =>
      (stripCookiesLoop strip (strtok ';' cookies.toList) none).map fun result =>
        String.ofList (hdrValueSanitize result)
  | header, _ => header

/-- A header value has no line breaks. -/
def OneLine (header : Option String) : Prop := ∀ c ∈ (header.getD "").toList, c ≠ '\r' ∧ c ≠ '\n'

instance (header : Option String) : Decidable (OneLine header) :=
  decidable_of_iff ((header.getD "").toList.all fun c => decide (c ≠ '\r' ∧ c ≠ '\n'))
      (by simp [OneLine])

/-! ## Segments -/

section Segments

variable {cookie : List Char} {cookies : List (List Char)}

theorem skipSpaces_skipSpaces (token : List Char) :
    skipSpaces (skipSpaces token) = skipSpaces token :=
  List.dropWhile_idempotent _ token

theorem skipSpaces_space (token : List Char) : skipSpaces (' ' :: token) = skipSpaces token := rfl

/-- A cookie as the loop leaves it. -/
def IsSegment (cookie : List Char) : Prop := skipSpaces cookie = cookie ∧ cookie ≠ [] ∧ ';' ∉ cookie

theorem isSegment_of_mem {header : Option String} (member : cookie ∈ cookieSegments header) :
    IsSegment cookie := by
  obtain ⟨mapped, nonempty⟩ := List.mem_filter.mp member
  obtain ⟨token, split, rfl⟩ := List.mem_map.mp mapped
  refine ⟨skipSpaces_skipSpaces token, of_decide_eq_true nonempty, ?_⟩
  intro inside
  exact notMem_of_mem_splitOn split ((List.dropWhile_sublist _).subset inside)

theorem mem_of_mem_cookieSegments {header : Option String} (member : cookie ∈ cookieSegments header)
    {c : Char} (inside : c ∈ cookie) : c ∈ (header.getD "").toList := by
  obtain ⟨mapped, -⟩ := List.mem_filter.mp member
  obtain ⟨token, split, rfl⟩ := List.mem_map.mp mapped
  exact mem_of_mem_splitOn split ((List.dropWhile_sublist _).subset inside)

/-- The tokens have the segments of the whole header. -/
theorem segments_strtok (text : List Char) :
    ((strtok ';' text).map skipSpaces).filter (· ≠ []) =
      ((text.splitOn ';').map skipSpaces).filter (· ≠ []) := by
  rw [strtok, List.filter_map, List.filter_map, List.filter_filter]
  congr 1
  apply List.filter_congr
  intro token _
  rw [Bool.and_eq_left_iff_imp]
  intro nonempty
  rw [Function.comp_apply, decide_eq_true_iff] at nonempty
  rw [decide_eq_true_iff]
  rintro rfl
  exact nonempty rfl

/-- Cookies behind each other. -/
def joinCookies : List (List Char) → Option (List Char)
  | [] => none
  | cookie :: cookies => some (cookie ++ cookies.flatMap fun cookie => ';' :: ' ' :: cookie)

theorem splitOn_joined (clean : ';' ∉ cookie) (rest : ∀ cookie ∈ cookies, IsSegment cookie) :
    (cookie ++ cookies.flatMap fun cookie => ';' :: ' ' :: cookie).splitOn ';' =
      cookie :: cookies.map (' ' :: ·) := by
  induction cookies generalizing cookie with
  | nil => rw [List.flatMap_nil, List.append_nil, List.splitOn_eq_singleton clean, List.map_nil]
  | cons next cookies ih =>
      have later := rest next List.mem_cons_self
      have spaced : ';' ∉ ' ' :: next := by
        rw [List.mem_cons, not_or]
        exact ⟨by decide, later.2.2⟩
      have others : ∀ cookie ∈ cookies, IsSegment cookie :=
        fun cookie member => rest cookie (List.mem_cons_of_mem next member)
      rw [List.flatMap_cons, List.cons_append, List.splitOn_append_cons_self_of_not_mem clean,
        ih spaced others, List.map_cons]

/-- Cookies that are put behind each other are the segments of the result. -/
theorem cookieSegments_joinCookies (segments : ∀ cookie ∈ cookies, IsSegment cookie) :
    cookieSegments ((joinCookies cookies).map String.ofList) = cookies := by
  cases cookies with
  | nil => rfl
  | cons cookie cookies =>
      have same : ∀ cookie ∈ cookies, (skipSpaces ∘ (' ' :: ·)) cookie = id cookie :=
        fun cookie member => (segments cookie (List.mem_cons_of_mem _ member)).1
      have first := segments cookie List.mem_cons_self
      rw [joinCookies, Option.map_some, cookieSegments, Option.getD_some, String.toList_ofList,
        splitOn_joined first.2.2 fun cookie member =>
            segments cookie (List.mem_cons_of_mem _ member),
        List.map_cons, List.map_map, List.map_congr_left same, List.map_id, first.1,
        List.filter_eq_self]
      intro cookie member
      exact decide_eq_true (segments cookie member).2.1

end Segments

/-! ## The loop -/

/-- The segments that stripping leaves. -/
def keptCookies (strip : List String) (cookies : List (List Char)) : List (List Char) :=
  cookies.filter fun cookie => (stripCookiesMatch cookie strip).isNone

section Loop

variable (strip : List String)

/-- The cookies of some tokens that stripping leaves. -/
def keptTokens (tokens : List (List Char)) : List (List Char) :=
  keptCookies strip ((tokens.map skipSpaces).filter (· ≠ []))

theorem keptTokens_cons (token : List Char) (tokens : List (List Char)) :
    keptTokens strip (token :: tokens) =
      if skipSpaces token = [] ∨ (stripCookiesMatch (skipSpaces token) strip).isSome then
        keptTokens strip tokens
      else skipSpaces token :: keptTokens strip tokens := by
  rw [keptTokens, List.map_cons, List.filter_cons]
  by_cases empty : skipSpaces token = []
  · rw [if_neg (by simpa using empty), if_pos (.inl empty), keptTokens]
  · rw [if_pos (by simpa using empty), keptCookies, List.filter_cons, ← keptCookies]
    by_cases listed : (stripCookiesMatch (skipSpaces token) strip).isSome
    · rw [if_neg (by simpa using Option.isSome_iff_ne_none.mp listed),
        if_pos (.inr listed), keptTokens]
    · rw [if_pos (by simpa using listed), if_neg (not_or.mpr ⟨empty, listed⟩), keptTokens]

/-- The loop appends the cookies that are left. -/
theorem stripCookiesLoop_some (tokens : List (List Char)) (result : List Char) :
    stripCookiesLoop strip tokens (some result) =
      some (result ++ (keptTokens strip tokens).flatMap fun cookie => ';' :: ' ' :: cookie) := by
  induction tokens generalizing result with
  | nil =>
      rw [stripCookiesLoop, keptTokens, keptCookies]
      simp
  | cons token tokens ih =>
      rw [stripCookiesLoop, keptTokens_cons]
      split
      · exact ih result
      · rw [ih, List.flatMap_cons, Option.elim_some, List.append_assoc]

theorem stripCookiesLoop_none (tokens : List (List Char)) :
    stripCookiesLoop strip tokens none = joinCookies (keptTokens strip tokens) := by
  induction tokens with
  | nil => rfl
  | cons token tokens ih =>
      rw [stripCookiesLoop, keptTokens_cons]
      split
      · exact ih
      · rw [Option.elim_none, stripCookiesLoop_some, joinCookies]

end Loop

theorem hdrValueSanitize_eq {value : List Char} (line : ∀ c ∈ value, c ≠ '\r' ∧ c ≠ '\n') :
    hdrValueSanitize value = value := by
  refine (List.map_congr_left ?_).trans (List.map_id value)
  intro c member
  exact if_neg (not_or.mpr (line c member))

section Stripped

variable {header : Option String} (strip : List String)

theorem mem_joinCookies {cookies : List (List Char)} {result : List Char}
    (joined : joinCookies cookies = some result) {c : Char} (member : c ∈ result) :
    c = ';' ∨ c = ' ' ∨ ∃ cookie ∈ cookies, c ∈ cookie := by
  cases cookies with
  | nil => cases joined
  | cons first cookies =>
      injection joined with whole
      rw [← whole, List.mem_append, List.mem_flatMap] at member
      rcases member with inside | ⟨cookie, later, inside⟩
      · exact .inr (.inr ⟨first, List.mem_cons_self, inside⟩)
      · rcases List.mem_cons.mp inside with same | inside
        · exact .inl same
        · rcases List.mem_cons.mp inside with same | inside
          · exact .inr (.inl same)
          · exact .inr (.inr ⟨cookie, List.mem_cons_of_mem first later, inside⟩)

/-- Stripping puts the cookies that are left behind each other. -/
theorem stripCookies_eq (line : OneLine header) :
    stripCookies (some strip) header =
      (joinCookies (keptCookies strip (cookieSegments header))).map String.ofList := by
  cases header with
  | none => rfl
  | some cookies =>
      have kept : keptTokens strip (strtok ';' cookies.toList) =
          keptCookies strip (cookieSegments (some cookies)) := by
        rw [keptTokens, segments_strtok, cookieSegments, Option.getD_some]
      rw [stripCookies, stripCookiesLoop_none, kept]
      apply Option.map_congr
      intro result joined
      rw [hdrValueSanitize_eq]
      intro c member
      rcases mem_joinCookies joined member with rfl | rfl | ⟨cookie, left, inside⟩
      · decide
      · decide
      · exact line c (mem_of_mem_cookieSegments (List.mem_of_mem_filter left) inside)

/-- The segments of the stripped header are those that no listed name has. -/
theorem cookieSegments_stripCookies (line : OneLine header) :
    cookieSegments (stripCookies (some strip) header) =
      keptCookies strip (cookieSegments header) := by
  rw [stripCookies_eq strip line]
  apply cookieSegments_joinCookies
  intro cookie member
  exact isSegment_of_mem (List.mem_of_mem_filter member)

/-- Reading a cookie looks through the segments. -/
theorem getCookie_eq (header : Option String) (cookieName : String) :
    getCookie header cookieName =
      ((cookieSegments header).findSome? fun cookie =>
        cookie.dropPrefix? (cookieKey cookieName)).map String.ofList := by
  cases header with
  | none => rfl
  | some cookies =>
      rw [cookieSegments, Option.getD_some, ← segments_strtok, findSome?_filter, List.findSome?_map]
      · rfl
      · intro cookie _ blank
        obtain rfl : cookie = [] := by simpa using blank
        rw [dropPrefix?_eq_none_iff_not_front, List.prefix_nil, cookieKey]
        exact List.append_ne_nil_of_right_ne_nil _ (List.cons_ne_nil _ _)

theorem stripCookiesMatch_isNone_iff (cookie : List Char) :
    (stripCookiesMatch cookie strip).isNone = true ↔
    ∀ name ∈ strip, ¬cookieKey name <+: cookie := by
  rw [stripCookiesMatch, Option.isNone_iff_eq_none, List.find?_eq_none]
  simp only [decide_eq_true_eq]

/-- A cookie with a listed name is not found any more. -/
theorem getCookie_stripCookies_listed (line : OneLine header) {name : String}
    (listed : name ∈ strip) :
    getCookie (stripCookies (some strip) header) name = none := by
  rw [getCookie_eq, cookieSegments_stripCookies strip line, Option.map_eq_none_iff,
    List.findSome?_eq_none_iff]
  intro cookie member
  have left := (List.mem_filter.mp member).2
  exact dropPrefix?_eq_none_iff_not_front.mpr
    ((stripCookiesMatch_isNone_iff strip cookie).mp left name listed)

/-- Names of which neither with its sign begins with the other. -/
def NamesApart (first second : String) : Prop :=
  ¬cookieKey first <+: cookieKey second ∧ ¬cookieKey second <+: cookieKey first

/-- A cookie with another name is found as before. -/
theorem getCookie_stripCookies_other (line : OneLine header) {other : String}
    (apart : ∀ name ∈ strip, NamesApart name other) :
    getCookie (stripCookies (some strip) header) other = getCookie header other := by
  rw [getCookie_eq, cookieSegments_stripCookies strip line, getCookie_eq, keptCookies,
    findSome?_filter]
  intro cookie _ stripped
  rw [dropPrefix?_eq_none_iff_not_front]
  intro front
  apply Bool.eq_false_iff.mp stripped
  rw [stripCookiesMatch_isNone_iff]
  intro name listed also
  rcases List.prefix_or_prefix_of_prefix also front with short | long
  · exact (apart name listed).1 short
  · exact (apart name listed).2 long

theorem eq_of_cookieKey_front {first second : String} (clean : '=' ∉ second.toList)
    (front : cookieKey first <+: cookieKey second) : first = second := by
  rw [cookieKey, cookieKey, List.prefix_concat_iff] at front
  rcases front with same | inside
  · exact String.toList_inj.mp (List.append_cancel_right same)
  · exact absurd (inside.subset (List.mem_append_right _ List.mem_cons_self)) clean

/-- Different names without the sign are apart. -/
theorem namesApart_of_ne {first second : String} (cleanFirst : '=' ∉ first.toList)
    (cleanSecond : '=' ∉ second.toList) (different : first ≠ second) : NamesApart first second :=
  ⟨fun front => different (eq_of_cookieKey_front cleanSecond front),
    fun front => different (eq_of_cookieKey_front cleanFirst front).symm⟩

theorem joinCookies_eq_none_iff {cookies : List (List Char)} :
    joinCookies cookies = none ↔ cookies = [] := by
  cases cookies with
  | nil => exact iff_of_true rfl rfl
  | cons cookie cookies => exact iff_of_false (Option.some_ne_none _) (List.cons_ne_nil _ _)

/-- Stripping takes out the cookies with listed names and leaves the others as they were. Nothing
else is found differently: a name that overlaps with a listed one through the sign is the exception.
-/
theorem stripCookies_exact (line : OneLine header) :
    (∀ name ∈ strip, getCookie (stripCookies (some strip) header) name = none) ∧
      (∀ other, (∀ name ∈ strip, NamesApart name other) →
        getCookie (stripCookies (some strip) header) other = getCookie header other) ∧
      ((∀ name ∈ strip, '=' ∉ name.toList) → ∀ other, '=' ∉ other.toList → other ∉ strip →
        getCookie (stripCookies (some strip) header) other = getCookie header other) ∧
      cookieSegments (stripCookies (some strip) header) =
        (cookieSegments header).filter (fun cookie => (stripCookiesMatch cookie strip).isNone) ∧
      (stripCookies (some strip) header = none ↔
        ∀ cookie ∈ cookieSegments header, (stripCookiesMatch cookie strip).isSome) := by
  refine ⟨fun name => getCookie_stripCookies_listed strip line,
    fun other => getCookie_stripCookies_other strip line, ?_,
      cookieSegments_stripCookies strip line, ?_⟩
  · intro clean other cleanOther unlisted
    apply getCookie_stripCookies_other strip line
    intro name listed
    exact namesApart_of_ne (clean name listed) cleanOther (ne_of_mem_of_not_mem listed unlisted)
  · rw [stripCookies_eq strip line, Option.map_eq_none_iff, joinCookies_eq_none_iff, keptCookies,
      List.filter_eq_nil_iff]
    simp only [Option.isNone_iff_eq_none, Option.isSome_iff_ne_none, ne_eq]

end Stripped

/-- A repeated name, a name that another begins with, blank segments and a space behind a value. -/
theorem stripCookies_exact_repeated :
    cookieSegments (stripCookies (some ["sid"]) (some " sid=1;; keep=this ;sidx=2;  ;sid=3")) =
        ["keep=this ".toList, "sidx=2".toList] ∧
      getCookie (stripCookies (some ["sid"]) (some " sid=1;; keep=this ;sidx=2;  ;sid=3")) "sid" =
        none := by
  have line : OneLine (some " sid=1;; keep=this ;sidx=2;  ;sid=3") := by decide +kernel
  have stripped := stripCookies_exact ["sid"] line
  refine ⟨?_, stripped.1 "sid" List.mem_cons_self⟩
  rw [stripped.2.2.2.1]
  decide +kernel

/-- A cookie is stripped under one name that could be read under another, and a cookie behind a line
break becomes readable. -/
theorem stripCookies_overlap :
    "a=b" ∉ ["a"] ∧ getCookie (some "a=b=c") "a=b" = some "c" ∧
      getCookie (stripCookies (some ["a"]) (some "a=b=c")) "a=b" = none ∧
      getCookie (stripCookies (some ["a"]) (some "\na=1")) "a" = some "1" := by
  decide +kernel

end Http

end ModAuthOpenidc
