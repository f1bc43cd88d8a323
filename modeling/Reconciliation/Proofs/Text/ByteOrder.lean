import Mathlib.Data.List.Basic

/-! # The order of bytes

Texts sort as their bytes do (`Text.bytes_lt_iff`): of two characters, the lesser has the lesser
byte in the first place where their encodings differ, whatever follows them.
-/

namespace Reconciliation.Text

/-- The bytes of a text. -/
def bytes (text : String) : List UInt8 :=
  text.toList.flatMap String.utf8EncodeChar

theorem utf8EncodeChar_append_lt {c d : Char} (below : c < d) (rest others : List UInt8) :
    String.utf8EncodeChar c ++ rest < String.utf8EncodeChar d ++ others := by
  have ascending : c.val.toNat < d.val.toNat := UInt32.lt_iff_toNat_lt.mp below
  have bounded : d.val.toNat < 0x110000 := by
    have valid := d.valid
    simp only [UInt32.isValidChar, Nat.isValidChar] at valid
    omega
  have second (code : Nat) : code / 4096 = code / 64 / 64 := by omega
  have first (code : Nat) : code / 262144 = code / 64 / 64 / 64 := by omega
  unfold String.utf8EncodeChar
  generalize c.val.toNat = code at ascending
  generalize d.val.toNat = above at ascending bounded
  simp only [first, second]
  -- the leading byte tells the length; among equal lengths, the digits of base 64 decide
  repeat' split
  all_goals
    simp only [List.cons_append, List.nil_append, List.cons_lt_cons_iff, UInt8.lt_iff_toNat_lt,
      ← UInt8.toNat_inj, UInt8.toNat_ofNat']
    omega

theorem flatMap_utf8EncodeChar_lt {cs ds : List Char} (below : cs < ds) :
    cs.flatMap String.utf8EncodeChar < ds.flatMap String.utf8EncodeChar := by
  induction cs generalizing ds with
  | nil =>
      cases ds with
      | nil => exact absurd below (List.lt_irrefl _)
      | cons d ds =>
          have nonempty : String.utf8EncodeChar d ≠ [] := String.utf8EncodeChar_ne_nil
          obtain ⟨head, tail, encoded⟩ := List.exists_cons_of_ne_nil nonempty
          rw [List.flatMap_nil, List.flatMap_cons, encoded]
          exact List.nil_lt_cons _ _
  | cons c cs ih =>
      cases ds with
      | nil => exact absurd below (List.not_lt_nil _)
      | cons d ds =>
          rw [List.flatMap_cons, List.flatMap_cons]
          rcases List.cons_lt_cons_iff.mp below with lesser | ⟨rfl, later⟩
          · exact utf8EncodeChar_append_lt lesser _ _
          · exact List.append_left_lt (ih later)

/-- Texts sort as their bytes do. -/
theorem bytes_lt_iff {a b : String} : bytes a < bytes b ↔ a < b := by
  have encoded {a b : String} (below : a < b) : bytes a < bytes b :=
    flatMap_utf8EncodeChar_lt (String.lt_iff.mp below)
  refine ⟨fun below => ?_, encoded⟩
  by_contra notBelow
  by_cases same : a = b
  · exact List.lt_irrefl _ (same ▸ below)
  · have above : b < a := Std.lt_of_le_of_ne (Std.not_lt.mp notBelow) (Ne.symm same)
    exact List.lt_asymm below (encoded above)

theorem bytes_le_iff {a b : String} : bytes a ≤ bytes b ↔ a ≤ b := by
  rw [← List.not_lt, ← Std.not_lt, bytes_lt_iff]

end Reconciliation.Text
