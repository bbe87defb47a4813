import Mathlib.Data.List.Lex
import Mathlib.Tactic.SplitIfs

/-!
# The order of bytes

Texts are ordered by their characters, and their bytes in UTF-8 are ordered in the same
way (`lt_iff_bytes_lt`).  The bytes of a smaller character come first, whatever follows
(`utf8EncodeChar_append_lt`): what takes more bytes begins with a larger one, and bytes of
the same number hold digits to the base 64.
-/

namespace SourceMend.Text

variable {c d : Char} {cs ds : List Char} {m n : Nat} {s t : String}

/-- The bytes of a text in UTF-8. -/
def bytes (s : String) : List UInt8 := s.toUTF8.data.toList

theorem bytes_eq (s : String) : bytes s = s.toList.flatMap String.utf8EncodeChar := by
  rw [bytes, String.toUTF8_eq_toByteArray, ← s.ofList_toList, String.toByteArray_ofList,
    List.utf8Encode, List.toList_data_toByteArray, String.toList_ofList]

/-! ## One character -/

theorem ofNat_lt_ofNat_iff (hm : m < 256) (hn : n < 256) :
    UInt8.ofNat m < UInt8.ofNat n ↔ m < n := by
  rw [UInt8.lt_iff_toNat_lt, UInt8.toNat_ofNat', UInt8.toNat_ofNat', Nat.mod_eq_of_lt hm,
    Nat.mod_eq_of_lt hn]

theorem ofNat_eq_ofNat_iff (hm : m < 256) (hn : n < 256) :
    UInt8.ofNat m = UInt8.ofNat n ↔ m = n := by
  rw [← UInt8.toNat_inj, UInt8.toNat_ofNat', UInt8.toNat_ofNat', Nat.mod_eq_of_lt hm,
    Nat.mod_eq_of_lt hn]

/-- A smaller number is smaller without its last digit, or has a smaller one. -/
theorem digits_lt (h : m < n) : m / 64 < n / 64 ∨ m / 64 = n / 64 ∧ m % 64 < n % 64 := by
  omega

/-- The bytes of a smaller character come first, whatever follows. -/
theorem utf8EncodeChar_append_lt (h : c < d) (u v : List UInt8) :
    String.utf8EncodeChar c ++ u < String.utf8EncodeChar d ++ v := by
  have hlt : c.val.toNat < d.val.toNat := h
  have hd : d.val.toNat < 0x110000 := by
    have hvalid := d.valid
    simp only [UInt32.isValidChar, Nat.isValidChar] at hvalid
    omega
  unfold String.utf8EncodeChar
  generalize c.val.toNat = m at *
  generalize d.val.toNat = n at *
  dsimp only
  split_ifs
  all_goals
    simp (disch := omega) only [List.cons_append, List.nil_append, List.cons_lt_cons_iff,
      ofNat_lt_ofNat_iff, ofNat_eq_ofNat_iff]
    -- which is the first digit to differ
    rcases digits_lt hlt with h64 | ⟨h64, _⟩
    · rcases digits_lt h64 with h4096 | ⟨h4096, _⟩
      · rcases digits_lt h4096 with hrest | ⟨hrest, _⟩ <;> omega
      · omega
    · omega

/-! ## Texts -/

theorem flatMap_utf8EncodeChar_lt (h : cs < ds) :
    cs.flatMap String.utf8EncodeChar < ds.flatMap String.utf8EncodeChar := by
  induction cs generalizing ds with
  | nil =>
    cases ds with
    | nil => cases h
    | cons d ds =>
      obtain ⟨b, r, hbytes⟩ := List.exists_cons_of_ne_nil (String.utf8EncodeChar_ne_nil (c := d))
      rw [List.flatMap_cons, hbytes]
      exact List.nil_lt_cons b _
  | cons c cs ih =>
    cases ds with
    | nil => cases h
    | cons d ds =>
      rw [List.flatMap_cons, List.flatMap_cons]
      rcases List.cons_lt_cons_iff.1 h with hlt | ⟨rfl, hlt⟩
      · exact utf8EncodeChar_append_lt hlt _ _
      · exact List.append_left_lt (ih hlt)

/-- Texts and their bytes are ordered in the same way. -/
theorem lt_iff_bytes_lt : s < t ↔ bytes s < bytes t := by
  rw [bytes_eq, bytes_eq]
  refine ⟨flatMap_utf8EncodeChar_lt, fun h => ?_⟩
  by_cases hlt : s < t
  · exact hlt
  · by_cases hgt : t < s
    · exact absurd h (List.lt_asymm (flatMap_utf8EncodeChar_lt hgt))
    · obtain rfl : s = t := String.le_antisymm (String.not_lt.1 hgt) (String.not_lt.1 hlt)
      exact absurd h (List.lt_irrefl _)

end SourceMend.Text
