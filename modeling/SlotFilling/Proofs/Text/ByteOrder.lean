import Mathlib.Order.Basic

/-!
# The order of texts and of their bytes

Texts are compared by code points. In UTF-8 the first byte tells how many bytes a character has,
longer forms start with greater bytes, and forms of one length are read from the highest bits
down. So the smaller one of two characters has the smaller bytes, whatever follows, and texts
have the order of their bytes.
-/
namespace SlotFilling.Text

/-- The bytes of a text in UTF-8. -/
def bytes (text : String) : List UInt8 := text.toUTF8.data.toList

theorem bytes_eq_flatMap (text : String) :
    bytes text = text.toList.flatMap String.utf8EncodeChar := by
  rw [bytes, String.toUTF8_eq_toByteArray, ← String.ofList_toList (s := text),
    String.toByteArray_ofList, String.toList_ofList, List.utf8Encode, List.data_toByteArray,
    List.toList_toArray]

theorem utf8EncodeChar_append_lt {left right : Char} (less : left < right)
    (after further : List UInt8) :
    String.utf8EncodeChar left ++ after < String.utf8EncodeChar right ++ further := by
  have points : left.val.toNat < right.val.toNat := less
  have valid : right.val.toNat < 0x110000 := by
    rcases right.valid with below | ⟨_, below⟩ <;> omega
  -- Six bits go into each byte, so one division by 64 leads from a byte to the one before it.
  have twice (point : Nat) : point / 4096 = point / 64 / 64 := by omega
  have thrice (point : Nat) : point / 262144 = point / 64 / 64 / 64 := by omega
  fun_cases String.utf8EncodeChar left <;> fun_cases String.utf8EncodeChar right <;>
    simp only [List.cons_append, List.cons_lt_cons_iff, UInt8.lt_iff_toNat_lt, ← UInt8.toNat_inj,
      UInt8.toNat_ofNat', twice, thrice] <;>
    simp (disch := omega) only [Nat.mod_eq_of_lt (b := 256)] <;>
    omega

theorem flatMap_utf8EncodeChar_lt {left right : List Char} (less : left < right) :
    left.flatMap String.utf8EncodeChar < right.flatMap String.utf8EncodeChar := by
  induction less with
  | @nil character rest =>
    obtain ⟨byte, others, encoded⟩ :=
      List.exists_cons_of_ne_nil (String.utf8EncodeChar_ne_nil (c := character))
    rw [List.flatMap_nil, List.flatMap_cons, encoded]
    exact .nil
  | rel less => exact utf8EncodeChar_append_lt less _ _
  | cons _ ih => exact List.append_left_lt ih

theorem bytes_lt_bytes_iff {left right : String} : bytes left < bytes right ↔ left < right := by
  have monotone {left right : String} (less : left < right) : bytes left < bytes right := by
    rw [bytes_eq_flatMap, bytes_eq_flatMap]
    exact flatMap_utf8EncodeChar_lt less
  refine ⟨fun less => ?_, monotone⟩
  by_contra other
  by_cases same : right = left
  · exact List.lt_irrefl _ (same ▸ less)
  · have before := Std.lt_of_le_of_ne (String.not_lt.mp other) same
    exact List.lt_asymm less (monotone before)

theorem bytes_le_bytes_iff {left right : String} : bytes left ≤ bytes right ↔ left ≤ right := by
  rw [← List.not_lt, bytes_lt_bytes_iff, String.not_lt]

end SlotFilling.Text
