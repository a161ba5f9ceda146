import ModAuthOpenidc.Cache.File

/-!
# The names of cache files

Different keys have different files. A section is one character, so it is read back before the
encoded key, and the percent encoding tells every byte from every other by the characters it starts
with.
-/

namespace ModAuthOpenidc

namespace FileCache

/-- A code whose words are told apart by their beginnings is read back from a sequence of words. -/
theorem flatMap_injective {α β : Type} {encode : α → List β} (nonempty : ∀ a, encode a ≠ [])
    (beginnings : ∀ a b s t, encode a ++ s = encode b ++ t → a = b) :
    Function.Injective (List.flatMap encode) := by
  intro first second same
  induction first generalizing second with
  | nil =>
      cases second with
      | nil => rfl
      | cons b second =>
          rw [List.flatMap_nil, List.flatMap_cons] at same
          exact absurd (List.append_eq_nil_iff.mp same.symm).1 (nonempty b)
  | cons a first ih =>
      cases second with
      | nil =>
          rw [List.flatMap_nil, List.flatMap_cons] at same
          exact absurd (List.append_eq_nil_iff.mp same).1 (nonempty a)
      | cons b second =>
          rw [List.flatMap_cons, List.flatMap_cons] at same
          obtain rfl := beginnings a b _ _ same
          rw [ih (List.append_cancel_left same)]

theorem toNat_ofNat_of_lt {n : Nat} (small : n < 256) : (Char.ofNat n).toNat = n := by
  have valid : n.isValidChar := by
    left
    omega
  rw [Char.ofNat, dif_pos valid]
  rfl

theorem ofNat_byte_injective : Function.Injective fun c : UInt8 => Char.ofNat c.toNat := by
  intro a b same
  have values : (Char.ofNat a.toNat).toNat = (Char.ofNat b.toNat).toNat :=
    congrArg Char.toNat same
  rw [toNat_ofNat_of_lt a.toNat_lt, toNat_ofNat_of_lt b.toNat_lt] at values
  exact UInt8.toNat_inj.mp values

theorem hexDigit_injective : ∀ a < 16, ∀ b < 16, hexDigit a = hexDigit b → a = b := by decide

theorem unreserved_ne_percent {c : UInt8} (keep : unreserved c = true) :
    Char.ofNat c.toNat ≠ '%' := by
  intro percent
  obtain rfl : c = 37 := ofNat_byte_injective percent
  exact absurd keep (by decide)

theorem encodeByte_ne_nil (c : UInt8) : encodeByte c ≠ [] := by
  rw [encodeByte]
  split <;> exact List.cons_ne_nil _ _

theorem encodeByte_beginning (a b : UInt8) (s t : List Char)
    (same : encodeByte a ++ s = encodeByte b ++ t) : a = b := by
  rw [encodeByte, encodeByte] at same
  split at same
  · rename_i keepA
    split at same
    · exact ofNat_byte_injective (List.cons.inj same).1
    · exact absurd (List.cons.inj same).1 (unreserved_ne_percent keepA)
  · split at same
    · rename_i keepB
      exact absurd (List.cons.inj same).1.symm (unreserved_ne_percent keepB)
    · obtain ⟨-, digits⟩ := List.cons.inj same
      obtain ⟨high, rest⟩ := List.cons.inj digits
      obtain ⟨low, -⟩ := List.cons.inj rest
      have boundA := a.toNat_lt
      have boundB := b.toNat_lt
      have highs := hexDigit_injective _ (by omega) _ (by omega) high
      have lows := hexDigit_injective _ (by omega) _ (by omega) low
      exact UInt8.toNat_inj.mp (by omega)

theorem urlEncode_injective : Function.Injective urlEncode := by
  intro first second same
  have bytes := flatMap_injective encodeByte_ne_nil encodeByte_beginning
    (String.ofList_injective same)
  exact String.toByteArray_inj.mp (ByteArray.ext (Array.toList_inj.mp bytes))

theorem sectionName_length {sectionName : String} (known : sectionName ∈ Cache.cacheSections) :
    sectionName.toList.length = 1 := by
  rw [Cache.cacheSections] at known
  revert sectionName
  decide

/-- Different keys have different files. -/
theorem Key.fileName_injective : Function.Injective Key.fileName := by
  rintro ⟨sectionA, keyA, knownA⟩ ⟨sectionB, keyB, knownB⟩ same
  have lists : (filePrefix ++ sectionA ++ "-" ++ urlEncode keyA).toList =
      (filePrefix ++ sectionB ++ "-" ++ urlEncode keyB).toList := congrArg String.toList same
  simp only [String.toList_append, List.append_assoc, List.append_cancel_left_eq] at lists
  obtain ⟨sections, rest⟩ := List.append_inj lists
    ((sectionName_length knownA).trans (sectionName_length knownB).symm)
  obtain rfl := String.toList_injective sections
  obtain rfl := urlEncode_injective (String.toList_injective (List.append_cancel_left rest))
  rfl

end FileCache

end ModAuthOpenidc
