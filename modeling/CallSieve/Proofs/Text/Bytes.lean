import Mathlib

namespace CallSieve.Text

/-- The UTF-8 bytes of a text. -/
def bytes (s : String) : List UInt8 := s.toUTF8.data.toList

theorem bytes_eq_flatMap (s : String) : bytes s = s.toList.flatMap String.utf8EncodeChar := by
  rw [bytes, String.toUTF8, ← String.utf8Encode_toList, List.utf8Encode, List.toList_data_toByteArray]

/-- The first byte in which two characters differ decides, whatever follows them. -/
theorem encode_append_lt {c d : Char} (lower : c < d) (xs ys : List UInt8) :
    String.utf8EncodeChar c ++ xs < String.utf8EncodeChar d ++ ys := by
  have below : c.val.toNat < d.val.toNat := lower
  have bound : d.val.toNat < 0x110000 := by
    rcases d.valid with small | large
    · have : d.val.toNat < 0xd800 := small
      omega
    · exact large.2
  -- Each byte after the first holds six bits, so the digits to base 64 are compared one after the other.
  have twice (n : Nat) : n / 4096 = n / 64 / 64 := by omega
  have thrice (n : Nat) : n / 262144 = n / 64 / 64 / 64 := by omega
  simp only [String.utf8EncodeChar]
  split_ifs
  all_goals
    simp only [List.cons_append, List.nil_append, List.cons_lt_cons_iff, UInt8.lt_iff_toNat_lt, UInt8.toNat_ofNat',
      ← UInt8.toNat_inj, twice, thrice]
    simp (disch := omega) only [Nat.mod_eq_of_lt]
    omega

theorem flatMap_encode_lt {cs ds : List Char} (lower : cs < ds) :
    cs.flatMap String.utf8EncodeChar < ds.flatMap String.utf8EncodeChar := by
  induction lower with
  | @nil d ds =>
    rw [List.flatMap_nil, List.flatMap_cons]
    cases shape : String.utf8EncodeChar d with
    | nil => exact absurd shape String.utf8EncodeChar_ne_nil
    | cons byte rest => exact List.nil_lt_cons _ _
  | cons _ ih =>
    rw [List.flatMap_cons, List.flatMap_cons]
    exact List.append_left_lt ih
  | rel lower =>
    rw [List.flatMap_cons, List.flatMap_cons]
    exact encode_append_lt lower _ _

theorem bytes_lt {s u : String} (lower : s < u) : bytes s < bytes u := by
  rw [bytes_eq_flatMap, bytes_eq_flatMap]
  exact flatMap_encode_lt lower

theorem bytes_le_iff {s u : String} : bytes s ≤ bytes u ↔ s ≤ u := by
  constructor
  · intro le
    exact String.not_lt.mp fun after => le (bytes_lt after)
  · intro le back
    rcases eq_or_lt_of_le le with rfl | lower
    · exact List.lt_irrefl _ back
    · exact List.lt_asymm (bytes_lt lower) back

end CallSieve.Text
