import ModAuthOpenidc.Http.FormEncode

/-!
# The files of a provider

What is known of a provider is kept in files of one directory. A file is named after the issuer,
without the scheme and without a slash at the end. A listing of the directory goes the other way: it
takes the issuer from the name of a file. Nothing but the scheme and the slash is lost on the way,
and no issuer names a file elsewhere.
-/

namespace ModAuthOpenidc

namespace Metadata

open Http

/-! ## Names -/

/-- The issuer behind `https://` or `http://`. -/
def withoutScheme (issuer : List Char) : List Char :=
  ((issuer.dropPrefix? "https://".toList).or (issuer.dropPrefix? "http://".toList)).getD issuer

/-- The text without a slash at its end. -/
def withoutSlash (text : List Char) : List Char :=
  if text.getLast? = some '/' then text.dropLast else text

/-- What of an issuer goes into the name of its files. -/
def bare (issuer : String) : String := String.ofList (withoutSlash (withoutScheme issuer.toList))

/-- `oidc_metadata_issuer_to_filename`. -/
def issuerToFilename (issuer : String) : String := urlEncode (bare issuer)

/-- What is in front of the last dot. The callers have made sure that there is one. -/
def beforeLastDot (filename : List Char) : List Char :=
  ((filename.reverse.dropWhile (· ≠ '.')).drop 1).reverse

/-- `oidc_metadata_filename_to_issuer`. -/
def filenameToIssuer (filename : String) : String :=
  "https://" ++ urlDecode (String.ofList (beforeLastDot filename.toList))

/-- `oidc_metadata_file_path`. -/
def filePath (dir issuer type : String) : String :=
  dir ++ "/" ++ issuerToFilename issuer ++ "." ++ type

/-- `oidc_metadata_provider_file_path`. -/
def providerFilePath (dir issuer : String) : String := filePath dir issuer "provider"

/-- `oidc_metadata_client_file_path`. -/
def clientFilePath (dir issuer : String) : String := filePath dir issuer "client"

/-- `oidc_metadata_conf_path`. -/
def confPath (dir issuer : String) : String := filePath dir issuer "conf"

/-- The test of `oidc_metadata_list` for an entry of the directory. -/
def isProviderEntry (name : String) : Bool :=
  name.toList.head? ≠ some '.' && '.' ∈ name.toList &&
    (name.toList.reverse.takeWhile (· ≠ '.')).reverse = "provider".toList

/-! ## From issuers to files and back -/

theorem withoutScheme_cases (issuer : List Char) :
    ∃ scheme ∈ ["https://".toList, "http://".toList, []],
      issuer = scheme ++ withoutScheme issuer := by
  unfold withoutScheme
  cases secure : issuer.dropPrefix? "https://".toList with
  | some rest =>
      obtain ⟨front, rfl, same⟩ := List.dropPrefix?_eq_some_iff.mp secure
      exact ⟨"https://".toList, List.mem_cons_self, by rw [beq_iff_eq.mp same]; rfl⟩
  | none =>
      cases plain : issuer.dropPrefix? "http://".toList with
      | some rest =>
          obtain ⟨front, rfl, same⟩ := List.dropPrefix?_eq_some_iff.mp plain
          exact ⟨"http://".toList, List.mem_cons_of_mem _ List.mem_cons_self,
            by rw [beq_iff_eq.mp same]; rfl⟩
      | none => exact ⟨[], List.mem_cons_of_mem _ (List.mem_cons_of_mem _ List.mem_cons_self), rfl⟩

theorem withoutSlash_cases (text : List Char) :
    text = withoutSlash text ∨ text = withoutSlash text ++ ['/'] := by
  unfold withoutSlash
  split
  · next slash =>
      right
      obtain ⟨front, rfl⟩ := List.getLast?_eq_some_iff.mp slash
      simp
  · exact .inl rfl

theorem mem_withoutSlash {text : List Char} {c : Char} (member : c ∈ withoutSlash text) :
    c ∈ text := by
  unfold withoutSlash at member
  split at member
  · exact List.mem_of_mem_dropLast member
  · exact member

theorem mem_withoutScheme {issuer : List Char} {c : Char} (member : c ∈ withoutScheme issuer) :
    c ∈ issuer := by
  obtain ⟨scheme, -, same⟩ := withoutScheme_cases issuer
  rw [same]
  exact List.mem_append_right scheme member

theorem nulFree_bare {issuer : String} (bytes : NulFree issuer) : NulFree (bare issuer) := by
  intro c member
  rw [bare, String.toList_ofList] at member
  exact bytes c (mem_withoutScheme (mem_withoutSlash member))

theorem beforeLastDot_append (front : List Char) {back : List Char} (clean : '.' ∉ back) :
    beforeLastDot (front ++ '.' :: back) = front := by
  have skip : ∀ c ∈ back.reverse, decide (c ≠ '.') = true := by
    intro c member
    simp only [decide_eq_true_eq]
    rintro rfl
    exact clean (List.mem_reverse.mp member)
  rw [beforeLastDot, List.reverse_append, List.reverse_cons, List.append_assoc,
    List.dropWhile_append_of_pos skip]
  simp

theorem takeWhile_append_dot (front : List Char) {back : List Char} (clean : '.' ∉ back) :
    ((front ++ '.' :: back).reverse.takeWhile (· ≠ '.')).reverse = back := by
  have take : ∀ c ∈ back.reverse, decide (c ≠ '.') = true := by
    intro c member
    simp only [decide_eq_true_eq]
    rintro rfl
    exact clean (List.mem_reverse.mp member)
  rw [List.reverse_append, List.reverse_cons, List.append_assoc, List.takeWhile_append_of_pos take]
  simp

/-- The name of the file with the metadata of a provider. -/
def providerFileName (issuer : String) : String := issuerToFilename issuer ++ ".provider"

theorem providerFilePath_eq (dir issuer : String) :
    providerFilePath dir issuer = dir ++ "/" ++ providerFileName issuer := by
  apply String.toList_inj.mp
  simp [providerFilePath, filePath, providerFileName]

theorem toList_providerFileName (issuer : String) :
    (providerFileName issuer).toList = (issuerToFilename issuer).toList ++
      '.' :: "provider".toList := by
  rw [providerFileName, String.toList_append]
  rfl

theorem notMem_provider : '.' ∉ "provider".toList := by decide

/-- Different texts are encoded differently. -/
theorem urlEncode_inj {first second : String} (bytes : NulFree first) (bytes' : NulFree second) :
    urlEncode first = urlEncode second ↔ first = second := by
  constructor
  · intro same
    rw [← urlDecode_urlEncode bytes, same, urlDecode_urlEncode bytes']
  · rintro rfl
    rfl

theorem head?_urlEncode {text : String} (bytes : NulFree text) :
    (urlEncode text).toList.head? = some '.' ↔ text.toList.head? = some '.' := by
  rw [urlEncode, String.toList_ofList]
  cases chars : text.toList with
  | nil => simp
  | cons c rest =>
      have small : c.toNat < 256 := (bytes c (chars ▸ List.mem_cons_self)).2
      rw [List.flatMap_cons, List.head?_cons, FileCache.encodeByte, toNat_byte small,
        Char.ofNat_toNat]
      split
      · simp
      · next keep =>
          constructor
          · intro same
            cases same
          · intro same
            cases same
            exact absurd (by decide) keep

theorem urlEncode_eq_empty {text : String} : (urlEncode text).toList = [] ↔ text = "" := by
  rw [urlEncode, String.toList_ofList, List.flatMap_eq_nil_iff]
  constructor
  · intro none
    apply String.toList_eq_nil_iff.mp
    cases chars : text.toList with
    | nil => rfl
    | cons c rest =>
        have empty := none c (chars ▸ List.mem_cons_self)
        rw [FileCache.encodeByte] at empty
        split at empty
        · cases empty
        · cases empty
  · rintro rfl c member
    cases member

theorem isProviderEntry_iff {issuer : String} (bytes : NulFree issuer) :
    isProviderEntry (providerFileName issuer) = true ↔
      bare issuer ≠ "" ∧ (bare issuer).toList.head? ≠ some '.' := by
  have dot : '.' ∈ (providerFileName issuer).toList := by simp [toList_providerFileName]
  have extension : ((providerFileName issuer).toList.reverse.takeWhile (· ≠ '.')).reverse =
      "provider".toList := by
    rw [toList_providerFileName, takeWhile_append_dot _ notMem_provider]
  have head : (providerFileName issuer).toList.head? ≠ some '.' ↔
      bare issuer ≠ "" ∧ (bare issuer).toList.head? ≠ some '.' := by
    have first := head?_urlEncode (nulFree_bare bytes)
    have empty : (urlEncode (bare issuer)).toList = [] ↔ bare issuer = "" := urlEncode_eq_empty
    rw [toList_providerFileName, issuerToFilename]
    cases chars : (urlEncode (bare issuer)).toList with
    | nil => simp [empty.mp chars]
    | cons c rest =>
        rw [chars] at first empty
        rw [Ne, Ne, Ne, ← first, ← empty]
        simp
  rw [isProviderEntry, extension, ← head]
  simp [dot]

theorem filenameToIssuer_providerFileName {issuer : String} (bytes : NulFree issuer) :
    filenameToIssuer (providerFileName issuer) = "https://" ++ bare issuer := by
  rw [filenameToIssuer, toList_providerFileName, beforeLastDot_append _ notMem_provider,
    String.ofList_toList, issuerToFilename, urlDecode_urlEncode (nulFree_bare bytes)]

theorem bare_secure (text : String) :
    bare ("https://" ++ text) = String.ofList (withoutSlash text.toList) := by
  have front : ("https://".toList ++ text.toList).dropPrefix? "https://".toList =
      some text.toList :=
    List.dropPrefix?_eq_some_iff.mpr ⟨"https://".toList, rfl, beq_self_eq_true _⟩
  rw [bare, withoutScheme, String.toList_append, front]
  rfl

theorem withoutSlash_eq_self (text : List Char) :
    withoutSlash text = text ↔ text.getLast? ≠ some '/' := by
  unfold withoutSlash
  split
  · next slash =>
      constructor
      · intro same
        obtain ⟨front, rfl⟩ := List.getLast?_eq_some_iff.mp slash
        simp at same
      · exact fun other => absurd slash other
  · next other => exact ⟨fun _ => other, fun _ => rfl⟩

theorem filePath_inj (dir type : String) {issuer other : String} (bytes : NulFree issuer)
    (bytes' : NulFree other) :
    filePath dir issuer type = filePath dir other type ↔ bare issuer = bare other := by
  rw [← urlEncode_inj (nulFree_bare bytes) (nulFree_bare bytes'), filePath, filePath,
    ← String.toList_inj, ← String.toList_inj]
  simp [issuerToFilename]

end Metadata

end ModAuthOpenidc
