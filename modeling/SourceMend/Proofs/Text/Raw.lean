import SourceMend.Proofs.Text.Bytes
import SourceMend.Proofs.Text.Pieces
import SourceMend.Text.Raw

/-!
# Raw texts that are strings

A string is found again in its bytes (`toText?_eq_some_iff`, `lossy_ofString`).  A character of
ASCII is one byte, which is no part of another character (`mem_utf8EncodeChar_iff`), so the pieces
of the bytes between slashes are the bytes of the pieces between slashes (`pieces_bytes`).
-/

namespace SourceMend.RawText

variable {r : RawText} {s t : String} {c d : Char}

theorem bytes_ofString (s : String) :
    (ofString s).bytes = s.toList.flatMap String.utf8EncodeChar :=
  Text.bytes_eq s

theorem ofString_append (s t : String) : ofString (s ++ t) = ofString s ++ ofString t := by
  refine RawText.ext ?_
  rw [bytes_append, bytes_ofString, bytes_ofString, bytes_ofString, String.toList_append,
    List.flatMap_append]

/-! ## Reading the bytes back -/

theorem toByteArray_ofString (s : String) : ⟨(ofString s).bytes.toArray⟩ = s.toByteArray := by
  simp [ofString, String.toUTF8_eq_toByteArray]

theorem toText?_eq_some_iff : r.toText? = some s ↔ r = ofString s := by
  unfold toText? String.fromUTF8?
  constructor
  · intro h
    split at h
    · next hvalid =>
      have hbytes := congrArg String.toByteArray (Option.some.inj h)
      refine RawText.ext ?_
      rw [ofString, String.toUTF8_eq_toByteArray, ← hbytes]
      rfl
    · cases h
  · rintro rfl
    rw [toByteArray_ofString, dif_pos s.isValidUTF8]
    rfl

@[simp] theorem toText?_ofString (s : String) : (ofString s).toText? = some s :=
  toText?_eq_some_iff.2 rfl

theorem ofString_injective : Function.Injective ofString := by
  intro s t h
  have htext := toText?_ofString s
  rw [h, toText?_ofString t] at htext
  exact (Option.some.inj htext).symm

/-- Nothing of a string is lost. -/
@[simp] theorem lossy_ofString (s : String) : (ofString s).lossy = s := by
  have htext := toText?_ofString s
  unfold toText? at htext
  rw [lossy, Text.Utf8.decodeLossy, htext]

/-! ## Characters of ASCII -/

/-- The byte of a character of ASCII is in the bytes of no other character. -/
theorem mem_utf8EncodeChar_iff (hc : c.toNat < 128) :
    UInt8.ofNat c.toNat ∈ String.utf8EncodeChar d ↔ c = d := by
  have hd : d.toNat < 0x110000 := by
    have hvalid := d.valid
    simp only [UInt32.isValidChar, Nat.isValidChar] at hvalid
    have hval : d.toNat = d.val.toNat := rfl
    omega
  have hval : d.val.toNat = d.toNat := rfl
  rw [← Char.toNat_inj]
  unfold String.utf8EncodeChar
  rw [hval]
  generalize c.toNat = m at *
  generalize d.toNat = n at *
  dsimp only
  split_ifs
  all_goals
    simp (disch := omega) only [List.mem_cons, List.not_mem_nil, or_false, Text.ofNat_eq_ofNat_iff]
    try omega

theorem mem_bytes_iff {cs : List Char} (hc : c.toNat < 128) :
    UInt8.ofNat c.toNat ∈ cs.flatMap String.utf8EncodeChar ↔ c ∈ cs := by
  simp [mem_utf8EncodeChar_iff hc]

theorem mem_ofString_iff (hc : c.toNat < 128) :
    UInt8.ofNat c.toNat ∈ (ofString s).bytes ↔ c ∈ s.toList := by
  rw [bytes_ofString, mem_bytes_iff hc]

theorem slash_mem_ofString_iff : slash ∈ (ofString s).bytes ↔ '/' ∈ s.toList :=
  mem_ofString_iff (c := '/') (by decide)

theorem zero_mem_ofString_iff : 0 ∈ (ofString s).bytes ↔ '\x00' ∈ s.toList :=
  mem_ofString_iff (c := '\x00') (by decide)

theorem pieces_bytes (cs : List Char) : Text.pieces slash (cs.flatMap String.utf8EncodeChar)
    = (Text.pieces '/' cs).map fun piece => piece.flatMap String.utf8EncodeChar := by
  have hslash {a : List Char} (ha : '/' ∉ a) : slash ∉ a.flatMap String.utf8EncodeChar := fun h =>
    ha ((mem_bytes_iff (c := '/') (by decide)).1 h)
  induction cs using Text.cut_induction (x := '/') with
  | whole cs hcs =>
    rw [Text.pieces_of_not_mem hcs, Text.pieces_of_not_mem (hslash hcs), List.map_singleton]
  | cut a b ha ih =>
    have hbytes : (a ++ '/' :: b).flatMap String.utf8EncodeChar
        = a.flatMap String.utf8EncodeChar ++ slash :: b.flatMap String.utf8EncodeChar := by
      rw [List.flatMap_append, List.flatMap_cons]
      rfl
    rw [hbytes, Text.pieces_append_cons, Text.pieces_append_cons, Text.pieces_of_not_mem ha,
      Text.pieces_of_not_mem (hslash ha), ih]
    rfl

/-- The pieces of the bytes of a string are the bytes of its pieces. -/
theorem exists_of_mem_pieces {piece : List UInt8}
    (h : piece ∈ Text.pieces slash (ofString s).bytes) :
    ∃ cs ∈ Text.pieces '/' s.toList, piece = (ofString (.ofList cs)).bytes := by
  rw [bytes_ofString, pieces_bytes] at h
  obtain ⟨cs, hcs, rfl⟩ := List.mem_map.1 h
  exact ⟨cs, hcs, by rw [bytes_ofString, String.toList_ofList]⟩

end SourceMend.RawText
