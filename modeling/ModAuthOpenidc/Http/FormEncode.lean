import ModAuthOpenidc.Cache.FileNames
import ModAuthOpenidc.Http.Form

/-!
# Form encoding

A table of parameters is written as a form and read back. Nothing of a parameter is lost: the
characters that separate parameters are encoded, so no word that is read off is more or less than a
pair that was written.
-/

namespace ModAuthOpenidc

namespace Http

/-! ## Encoding -/

/-- `oidc_http_url_encode`, a character for each byte. -/
def urlEncode (str : String) : String :=
  String.ofList (str.toList.flatMap fun c => FileCache.encodeByte c.toNat.toUInt8)

/-- `oidc_http_add_form_url_encoded_param`. -/
def addFormUrlEncodedParam (param : String × String) : List Char :=
  (urlEncode param.1).toList ++ '=' :: (urlEncode param.2).toList

/-- `oidc_http_encode_params`: nothing stands for `NULL`. -/
def encodeParams (params : List (String × String)) : Option String :=
  match params with
  | [] => none
  | param :: params =>
      some (String.ofList (['&'].intercalate ((param :: params).map addFormUrlEncodedParam)))

/-- `oidc_http_form_encoded_data`. -/
def formEncodedData (params : Option (List (String × String))) : Option String :=
  params.bind encodeParams

/-- `oidc_util_read_form_encoded_params`. -/
def readFormEncodedParams (table : List (String × String)) (data : Option String) :
    List (String × String) × Bool :=
  readFormEncodedParamsImpl table data none

/-! ## Texts of bytes -/

/-- A text of bytes without the null byte. -/
def NulFree (str : String) : Prop := ∀ c ∈ str.toList, c ≠ '\x00' ∧ c.toNat < 256

instance (str : String) : Decidable (NulFree str) :=
  decidable_of_iff (str.toList.all fun c => decide (c ≠ '\x00' ∧ c.toNat < 256)) (by simp [NulFree])

/-- A text of unreserved characters and `%XX` sequences with capital digits. -/
inductive PercentEncoded : List Char → Prop
  | nil : PercentEncoded []
  | unreserved {c : Char} {rest : List Char} (small : c.toNat < 256)
      (keep : FileCache.unreserved c.toNat.toUInt8 = true) (encoded : PercentEncoded rest) :
      PercentEncoded (c :: rest)
  | triplet {hi lo : Char} {rest : List Char} (high : hi ∈ "0123456789ABCDEF".toList)
      (low : lo ∈ "0123456789ABCDEF".toList) (encoded : PercentEncoded rest) :
      PercentEncoded ('%' :: hi :: lo :: rest)

theorem PercentEncoded.append {first second : List Char} (one : PercentEncoded first)
    (two : PercentEncoded second) : PercentEncoded (first ++ second) := by
  induction one with
  | nil => exact two
  | unreserved small keep _ ih => exact .unreserved small keep ih
  | triplet high low _ ih => exact .triplet high low ih

theorem hexDigit_mem : ∀ n < 16, FileCache.hexDigit n ∈ "0123456789ABCDEF".toList := by decide

theorem urlDecodeHexDigit_hexDigit :
    ∀ n < 16, urlDecodeHexDigit (FileCache.hexDigit n) = some n := by
  decide

section Bytes

variable {c : Char}

theorem toNat_byte (small : c.toNat < 256) : c.toNat.toUInt8.toNat = c.toNat := by
  rw [Nat.toUInt8, UInt8.toNat_ofNat']
  exact Nat.mod_eq_of_lt small

theorem percentEncoded_encodeByte (small : c.toNat < 256) :
    PercentEncoded (FileCache.encodeByte c.toNat.toUInt8) := by
  rw [FileCache.encodeByte, toNat_byte small]
  split
  · rename_i keep
    rw [Char.ofNat_toNat]
    exact .unreserved small keep .nil
  · exact .triplet (hexDigit_mem _ (by omega)) (hexDigit_mem _ (by omega)) .nil

/-- A character that is neither a plus nor a percent sign is copied. -/
theorem urlDecodeLoop_cons (plus : c ≠ '+') (percent : c ≠ '%') (rest : List Char) :
    urlDecodeLoop (c :: rest) = c :: urlDecodeLoop rest := by
  rw [urlDecodeLoop]
  · exact plus
  · intro first second rest' same
    exact absurd same percent

theorem ne_of_unreserved {special : Char}
    (reserved : FileCache.unreserved special.toNat.toUInt8 = false)
    (keep : FileCache.unreserved c.toNat.toUInt8 = true) : c ≠ special := by
  rintro rfl
  rw [reserved] at keep
  exact Bool.false_ne_true keep

/-- An encoded byte is read back. -/
theorem urlDecodeLoop_encodeByte (small : c.toNat < 256) (rest : List Char) :
    urlDecodeLoop (FileCache.encodeByte c.toNat.toUInt8 ++ rest) = c :: urlDecodeLoop rest := by
  rw [FileCache.encodeByte, toNat_byte small]
  split
  · rename_i keep
    rw [Char.ofNat_toNat]
    exact urlDecodeLoop_cons (ne_of_unreserved (by decide) keep)
      (ne_of_unreserved (by decide) keep) rest
  · have high := urlDecodeHexDigit_hexDigit (c.toNat / 16) (by omega)
    have low := urlDecodeHexDigit_hexDigit (c.toNat % 16) (by omega)
    have whole : c.toNat / 16 * 16 + c.toNat % 16 = c.toNat := by omega
    have triplet : urlDecodeTriplet (FileCache.hexDigit (c.toNat / 16))
        (FileCache.hexDigit (c.toNat % 16)) = some c := by
      rw [urlDecodeTriplet, high, low, Option.bind_some, Option.map_some, whole, Char.ofNat_toNat]
    rw [List.cons_append, List.cons_append, List.cons_append, List.nil_append,
      urlDecodeLoop, triplet]

end Bytes

theorem PercentEncoded.notMem {special : Char} {text : List Char} (encoded : PercentEncoded text)
    (percent : special ≠ '%') (reserved : FileCache.unreserved special.toNat.toUInt8 = false)
    (digit : special ∉ "0123456789ABCDEF".toList) : special ∉ text := by
  induction encoded with
  | nil => exact List.not_mem_nil
  | unreserved _ keep _ ih =>
      rw [List.mem_cons, not_or]
      exact ⟨(ne_of_unreserved reserved keep).symm, ih⟩
  | triplet high low _ ih =>
      rw [List.mem_cons, List.mem_cons, List.mem_cons, not_or, not_or, not_or]
      exact ⟨percent, (ne_of_mem_of_not_mem high digit).symm,
        (ne_of_mem_of_not_mem low digit).symm, ih⟩

theorem percentEncoded_flatMap {chars : List Char} (small : ∀ c ∈ chars, c.toNat < 256) :
    PercentEncoded (chars.flatMap fun c => FileCache.encodeByte c.toNat.toUInt8) := by
  induction chars with
  | nil => exact .nil
  | cons c chars ih =>
      rw [List.flatMap_cons]
      refine (percentEncoded_encodeByte (small c List.mem_cons_self)).append (ih ?_)
      intro d member
      exact small d (List.mem_cons_of_mem c member)

theorem urlDecodeLoop_flatMap {chars : List Char} (small : ∀ c ∈ chars, c.toNat < 256) :
    urlDecodeLoop (chars.flatMap fun c => FileCache.encodeByte c.toNat.toUInt8) = chars := by
  induction chars with
  | nil => rfl
  | cons c chars ih =>
      rw [List.flatMap_cons, urlDecodeLoop_encodeByte (small c List.mem_cons_self), ih]
      intro d member
      exact small d (List.mem_cons_of_mem c member)

theorem NulFree.percentEncoded {str : String} (bytes : NulFree str) :
    PercentEncoded (urlEncode str).toList := by
  rw [urlEncode, String.toList_ofList]
  exact percentEncoded_flatMap fun c member => (bytes c member).2

/-- What is encoded is read back. -/
theorem urlDecode_urlEncode {str : String} (bytes : NulFree str) :
    urlDecode (urlEncode str) = str := by
  have whole : str.toList.takeWhile (· ≠ '\x00') = str.toList := by
    rw [List.takeWhile_eq_self_iff]
    intro c member
    exact decide_eq_true (bytes c member).1
  rw [urlDecode, urlEncode, String.toList_ofList,
    urlDecodeLoop_flatMap fun c member => (bytes c member).2, whole, String.ofList_toList]

/-! ## Words -/

theorem getword_of_notMem {stop : Char} {word : List Char} (clean : stop ∉ word) :
    getword stop word = (word, []) := by
  have all : ∀ c ∈ word, decide (c ≠ stop) = true := by
    intro c member
    exact decide_eq_true (ne_of_mem_of_not_mem member clean)
  rw [getword, List.takeWhile_eq_self_iff.mpr all, List.dropWhile_eq_nil_iff.mpr all]
  rfl

/-- A word is taken off together with a single character behind it. -/
theorem getword_append {stop : Char} {word rest : List Char} (clean : stop ∉ word)
    (single : rest.head? ≠ some stop) : getword stop (word ++ stop :: rest) = (word, rest) := by
  have all : ∀ c ∈ word, decide (c ≠ stop) = true := by
    intro c member
    exact decide_eq_true (ne_of_mem_of_not_mem member clean)
  have keep : rest.dropWhile (· = stop) = rest := by
    cases rest with
    | nil => rfl
    | cons c rest =>
        rw [List.head?_cons, ne_eq, Option.some_inj] at single
        exact List.dropWhile_cons_of_neg (by simpa using single)
  rw [getword, List.takeWhile_append_of_pos all, List.dropWhile_append_of_pos all]
  rw [List.takeWhile_cons_of_neg (by simp), List.dropWhile_cons_of_neg (by simp),
    List.dropWhile_cons_of_pos (by simp), keep, List.append_nil]

theorem getwords_nil (stop : Char) (fuel : Nat) : getwords stop fuel [] = [] := by
  cases fuel <;> rfl

theorem getwords_of_ne_nil {stop : Char} {line : List Char} (nonempty : line ≠ []) (fuel : Nat) :
    getwords stop (fuel + 1) line =
      (getword stop line).1 :: getwords stop fuel (getword stop line).2 := by
  rw [getwords]
  exact nonempty

theorem intercalate_cons_append (stop : Char) (word : List Char) (words : List (List Char)) :
    ∃ rest, [stop].intercalate (word :: words) = word ++ rest := by
  cases words with
  | nil => exact ⟨[], by rw [List.intercalate_singleton, List.append_nil]⟩
  | cons second words => exact ⟨_, by rw [List.intercalate_cons_cons, List.append_assoc]⟩

section Words

variable {stop : Char}

/-- Words that are joined do not begin with the character that joins them. -/
theorem head?_intercalate_ne {words : List (List Char)}
    (clean : ∀ word ∈ words, word ≠ [] ∧ stop ∉ word) :
    ([stop].intercalate words).head? ≠ some stop := by
  cases words with
  | nil => exact (Option.some_ne_none stop).symm
  | cons word words =>
      obtain ⟨nonempty, notMem⟩ := clean word List.mem_cons_self
      obtain ⟨rest, joined⟩ := intercalate_cons_append stop word words
      obtain ⟨c, tail, rfl⟩ := List.exists_cons_of_ne_nil nonempty
      rw [joined, List.cons_append, List.head?_cons, ne_eq, Option.some_inj]
      rintro rfl
      exact notMem List.mem_cons_self

/-- Words that are joined by a character are taken off one by one. -/
theorem getwords_intercalate {words : List (List Char)}
    (clean : ∀ word ∈ words, word ≠ [] ∧ stop ∉ word) {fuel : Nat}
    (enough : ([stop].intercalate words).length ≤ fuel) :
    getwords stop fuel ([stop].intercalate words) = words := by
  induction words generalizing fuel with
  | nil => exact getwords_nil stop fuel
  | cons word words ih =>
      obtain ⟨nonempty, notMem⟩ := clean word List.mem_cons_self
      obtain ⟨rest, front⟩ := intercalate_cons_append stop word words
      have short : word.length ≤ ([stop].intercalate (word :: words)).length := by
        rw [front, List.length_append]
        omega
      have positive := List.length_pos_of_ne_nil nonempty
      obtain ⟨fuel, rfl⟩ : ∃ less, fuel = less + 1 := ⟨fuel - 1, by omega⟩
      cases words with
      | nil =>
          rw [List.intercalate_singleton, getwords_of_ne_nil nonempty, getword_of_notMem notMem,
            getwords_nil]
      | cons second words =>
          have later : ∀ word ∈ second :: words, word ≠ [] ∧ stop ∉ word :=
            fun word member => clean word (List.mem_cons_of_mem _ member)
          have joined : [stop].intercalate (word :: second :: words) =
              word ++ stop :: [stop].intercalate (second :: words) := by
            rw [List.intercalate_cons_cons, List.append_assoc]
            rfl
          rw [joined, List.length_append, List.length_cons] at enough
          rw [joined, getwords_of_ne_nil (List.append_ne_nil_of_left_ne_nil nonempty _),
            getword_append notMem (head?_intercalate_ne later), ih later (by omega)]

end Words

/-- A pair that was written is read back. -/
theorem formParam_addFormUrlEncodedParam {param : String × String} (name : NulFree param.1)
    (value : NulFree param.2) : formParam (addFormUrlEncodedParam param) = param := by
  have clean : '=' ∉ (urlEncode param.1).toList :=
    name.percentEncoded.notMem (by decide) (by decide) (by decide)
  have single : (urlEncode param.2).toList.head? ≠ some '=' := by
    intro first
    exact value.percentEncoded.notMem (by decide) (by decide) (by decide) (List.mem_of_head? first)
  rw [formParam, addFormUrlEncodedParam, getword_append clean single]
  dsimp only
  rw [String.ofList_toList, String.ofList_toList, urlDecode_urlEncode name,
    urlDecode_urlEncode value]

theorem addFormUrlEncodedParam_clean {param : String × String} (name : NulFree param.1)
    (value : NulFree param.2) :
    addFormUrlEncodedParam param ≠ [] ∧ '&' ∉ addFormUrlEncodedParam param := by
  refine ⟨List.append_ne_nil_of_right_ne_nil _ (List.cons_ne_nil _ _), ?_⟩
  rw [addFormUrlEncodedParam, List.mem_append, List.mem_cons, not_or, not_or]
  exact ⟨name.percentEncoded.notMem (by decide) (by decide) (by decide), by decide,
    value.percentEncoded.notMem (by decide) (by decide) (by decide)⟩

/-! ## Tables -/

/-- A pair with a new key comes last. -/
theorem set_of_new {table : List (String × String)} {key : String}
    (new : ∀ entry ∈ table, CaseTable.fold entry.1 ≠ CaseTable.fold key) (value : String) :
    CaseTable.set table key value = table ++ [(key, value)] := by
  induction table with
  | nil => rfl
  | cons entry table ih =>
      rw [CaseTable.set, if_neg (new entry List.mem_cons_self), List.cons_append,
        ih fun other member => new other (List.mem_cons_of_mem entry member)]

/-- Pairs with different keys are all kept, in order. -/
theorem readParams_of_distinct {params : List (String × String)} (table : List (String × String))
    (distinct : (table ++ params).Pairwise fun first second =>
      CaseTable.fold first.1 ≠ CaseTable.fold second.1) :
    readParams none params table = (table ++ params, true) := by
  induction params generalizing table with
  | nil => rw [readParams, List.append_nil]
  | cons param params ih =>
      have new : ∀ entry ∈ table, CaseTable.fold entry.1 ≠ CaseTable.fold param.1 :=
        fun entry member => (List.pairwise_append.mp distinct).2.2 entry member param
          List.mem_cons_self
      have moved : table ++ param :: params = (table ++ [(param.1, param.2)]) ++ params := by
        rw [List.append_assoc, List.singleton_append]
      rw [moved] at distinct ⊢
      rw [readParams, if_neg (by simp [paramMustNotRepeat]), set_of_new new]
      exact ih _ distinct

/-- The form of a table is read back as the table, and a text as itself from its encoding, which has
unreserved characters and capital `%XX` sequences only. -/
theorem form_round_trip :
    (∀ str : String, NulFree str →
      urlDecode (urlEncode str) = str ∧ PercentEncoded (urlEncode str).toList) ∧
    ∀ table : List (String × String),
      (∀ param ∈ table, NulFree param.1 ∧ NulFree param.2) →
      (table.Pairwise fun first second => CaseTable.fold first.1 ≠ CaseTable.fold second.1) →
        readFormEncodedParams [] (formEncodedData (some table)) = (table, true) := by
  refine ⟨fun str bytes => ⟨urlDecode_urlEncode bytes, bytes.percentEncoded⟩, ?_⟩
  intro table bytes distinct
  have params : formParams (encodeParams table) = table := by
    cases table with
    | nil => rfl
    | cons param table =>
        have clean : ∀ word ∈ (param :: table).map addFormUrlEncodedParam, word ≠ [] ∧
          '&' ∉ word := by
          intro word member
          obtain ⟨other, listed, rfl⟩ := List.mem_map.mp member
          exact addFormUrlEncodedParam_clean (bytes other listed).1 (bytes other listed).2
        rw [encodeParams, formParams, String.toList_ofList, String.length_ofList,
          getwords_intercalate clean (Nat.le_refl _), List.map_map]
        have same : ∀ other ∈ param :: table,
          (formParam ∘ addFormUrlEncodedParam) other = id other :=
          fun other listed =>
            formParam_addFormUrlEncodedParam (bytes other listed).1 (bytes other listed).2
        exact (List.map_congr_left same).trans (List.map_id _)
  rw [readFormEncodedParams, formEncodedData, Option.bind_some, readFormEncodedParamsImpl, params]
  exact readParams_of_distinct [] distinct

/-- Empty names and values and values with separators and signs of the encoding. -/
theorem form_round_trip_special :
    readFormEncodedParams [] (formEncodedData
      (some [("", ""), ("a=b", "x&y%41"), ("Code", "+ =="), ("é", "")])) =
        ([("", ""), ("a=b", "x&y%41"), ("Code", "+ =="), ("é", "")], true) ∧
      urlDecode (urlEncode "a+b%2") = "a+b%2" :=
  ⟨form_round_trip.2 _ (by decide +kernel) (by decide +kernel),
    (form_round_trip.1 "a+b%2" (by decide +kernel)).1⟩

end Http

end ModAuthOpenidc
