import SourceMend.CharSet

/-!
# What is in a set of characters

The characters of a set that is built from ranges are those in one of the ranges
(`contains_ofRanges`).  Ranges that touch become one, and since the code points
between U+D7FF and U+E000 are no characters, so do ranges on either side of them.
-/

namespace SourceMend.CharSet

/-- Whether a number is in one of some ranges. -/
def Covers (rs : List (Nat × Nat)) (n : Nat) : Prop := ∃ r ∈ rs, r.1 ≤ n ∧ n ≤ r.2

/-- Whether ranges are ordered by where they start. -/
abbrev Ordered (rs : List (Nat × Nat)) : Prop := rs.Pairwise fun a b => a.1 ≤ b.1

/-- What holds of all characters of a list is decided along the list, and not by going through all
characters there are. -/
instance (priority := 10000) decidableForallMem {p : Char → Prop} [DecidablePred p]
    (l : List Char) : Decidable (∀ c ∈ l, p c) :=
  List.decidableBAll p l

variable {r x : Nat × Nat} {rs : List (Nat × Nat)} {n : Nat}

theorem covers_nil : ¬ Covers [] n := by
  rintro ⟨_, h, _⟩
  cases h

theorem covers_cons : Covers (r :: rs) n ↔ (r.1 ≤ n ∧ n ≤ r.2) ∨ Covers rs n := by
  simp [Covers]

theorem inRanges_iff (h : Ordered rs) : inRanges n rs = true ↔ Covers rs n := by
  induction rs with
  | nil => simp [inRanges, covers_nil]
  | cons r rs ih =>
    obtain ⟨hfirst, hrest⟩ := List.pairwise_cons.1 h
    rw [covers_cons, ← ih hrest]
    simp only [inRanges]
    split
    next hlt =>
      have hnone : ¬ inRanges n rs = true := by
        rw [ih hrest]
        rintro ⟨x, hx, hle, -⟩
        have := hfirst x hx
        omega
      simp only [Bool.false_eq_true, hnone, or_false, false_iff]
      omega
    next hge =>
      rw [Bool.or_eq_true, decide_eq_true_eq]
      exact or_congr_left ⟨fun h => ⟨by omega, h⟩, fun h => h.2⟩

/-! ## Building -/

theorem mem_place : x ∈ place r rs ↔ x = r ∨ x ∈ rs := by
  induction rs with
  | nil => simp [place]
  | cons s rs ih =>
    simp only [place]
    split
    · exact List.mem_cons
    · rw [List.mem_cons, ih, List.mem_cons]
      exact or_left_comm

theorem ordered_place (h : Ordered rs) : Ordered (place r rs) := by
  induction rs with
  | nil => simp [place]
  | cons s rs ih =>
    obtain ⟨hfirst, hrest⟩ := List.pairwise_cons.1 h
    simp only [place]
    split
    next hlt =>
      simp only [Bool.or_eq_true, decide_eq_true_eq, Bool.and_eq_true, beq_iff_eq] at hlt
      refine List.pairwise_cons.2 ⟨fun x hx => ?_, h⟩
      rcases List.mem_cons.1 hx with rfl | hx
      · omega
      · have := hfirst x hx
        omega
    next hge =>
      simp only [Bool.or_eq_true, decide_eq_true_eq, Bool.and_eq_true, beq_iff_eq] at hge
      refine List.pairwise_cons.2 ⟨fun x hx => ?_, ih hrest⟩
      rcases mem_place.1 hx with rfl | hx
      · omega
      · exact hfirst x hx

/-- The ranges of a cover start where the covered ranges do. -/
theorem exists_of_mem_cover (h : x ∈ cover r rs) : ∃ y ∈ r :: rs, y.1 = x.1 := by
  induction rs generalizing r with
  | nil =>
    obtain rfl : x = r := by simpa [cover] using h
    exact ⟨x, List.mem_cons_self, rfl⟩
  | cons s rs ih =>
    simp only [cover] at h
    split at h
    · obtain ⟨y, hy, heq⟩ := ih h
      rcases List.mem_cons.1 hy with rfl | hy
      · exact ⟨r, List.mem_cons_self, heq⟩
      · exact ⟨y, List.mem_cons_of_mem _ (List.mem_cons_of_mem _ hy), heq⟩
    · exact ⟨x, h, rfl⟩

theorem ordered_cover (h : Ordered (r :: rs)) : Ordered (cover r rs) := by
  induction rs generalizing r with
  | nil => simp [cover]
  | cons s rs ih =>
    simp only [cover]
    split
    · refine ih (List.pairwise_cons.2 ⟨fun x hx => ?_, ?_⟩)
      · exact (List.pairwise_cons.1 h).1 x (List.mem_cons_of_mem _ hx)
      · exact (List.pairwise_cons.1 (List.pairwise_cons.1 h).2).2
    · exact h

/-- A character is in a cover if it is in one of the covered ranges. -/
theorem covers_cover (c : Char) (h : Ordered (r :: rs)) :
    Covers (cover r rs) c.toNat ↔ Covers (r :: rs) c.toNat := by
  induction rs generalizing r with
  | nil => rfl
  | cons s rs ih =>
    obtain ⟨hfirst, hrest⟩ := List.pairwise_cons.1 h
    simp only [cover]
    split
    next htouch =>
      have hordered : Ordered ((r.1, max r.2 s.2) :: rs) :=
        List.pairwise_cons.2 ⟨fun x hx => hfirst x (List.mem_cons_of_mem _ hx),
          (List.pairwise_cons.1 hrest).2⟩
      have hstart : r.1 ≤ s.1 := hfirst s List.mem_cons_self
      rw [ih hordered, covers_cons, covers_cons, covers_cons, ← or_assoc]
      refine or_congr_left ?_
      -- No character lies between a range and the next code point after it.
      have hgap : c.toNat ≤ r.2 ∨ s.1 ≤ c.toNat := by
        have hvalid : c.toNat < 0xD800 ∨ 0xDFFF < c.toNat ∧ c.toNat < 0x110000 := c.valid
        simp only [next] at htouch
        split at htouch <;> omega
      simp only
      omega
    next => rfl

theorem exists_of_mem_coverAll (h : x ∈ coverAll rs) : ∃ y ∈ rs, y.1 = x.1 := by
  induction rs generalizing x with
  | nil => cases h
  | cons r rs ih =>
    obtain ⟨y, hy, heq⟩ := exists_of_mem_cover h
    rcases List.mem_cons.1 hy with rfl | hy
    · exact ⟨y, List.mem_cons_self, heq⟩
    · obtain ⟨z, hz, heq'⟩ := ih hy
      exact ⟨z, List.mem_cons_of_mem _ hz, heq'.trans heq⟩

theorem ordered_cons_coverAll (h : Ordered (r :: rs)) (hall : Ordered (coverAll rs)) :
    Ordered (r :: coverAll rs) := by
  refine List.pairwise_cons.2 ⟨fun x hx => ?_, hall⟩
  obtain ⟨y, hy, heq⟩ := exists_of_mem_coverAll hx
  exact heq ▸ (List.pairwise_cons.1 h).1 y hy

theorem ordered_coverAll (h : Ordered rs) : Ordered (coverAll rs) := by
  induction rs with
  | nil => exact .nil
  | cons r rs ih => exact ordered_cover (ordered_cons_coverAll h (ih (List.pairwise_cons.1 h).2))

theorem covers_coverAll (c : Char) (h : Ordered rs) :
    Covers (coverAll rs) c.toNat ↔ Covers rs c.toNat := by
  induction rs with
  | nil => rfl
  | cons r rs ih =>
    have hrest := (List.pairwise_cons.1 h).2
    rw [coverAll, covers_cover c (ordered_cons_coverAll h (ordered_coverAll hrest)), covers_cons,
      ih hrest, covers_cons]

theorem ordered_foldr_place (rs : List (Nat × Nat)) : Ordered (rs.foldr place []) := by
  induction rs with
  | nil => exact .nil
  | cons r rs ih => exact ordered_place ih

theorem mem_foldr_place : x ∈ rs.foldr place [] ↔ x ∈ rs := by
  induction rs with
  | nil => rfl
  | cons r rs ih => rw [List.foldr_cons, mem_place, ih, List.mem_cons]

theorem ordered_ofRanges (rs : List (Nat × Nat)) : Ordered (ofRanges rs).ranges :=
  ordered_coverAll (ordered_foldr_place rs)

/-- The characters of a set that is built from ranges. -/
theorem contains_ofRanges (rs : List (Nat × Nat)) (c : Char) :
    (ofRanges rs).contains c = true ↔ Covers rs c.toNat := by
  rw [contains, inRanges_iff (ordered_ofRanges rs), ofRanges,
    covers_coverAll c (ordered_foldr_place rs)]
  simp only [Covers, mem_foldr_place]

theorem ordered_ofChars (cs : List Char) : Ordered (ofChars cs).ranges := ordered_ofRanges _

theorem ordered_single (c : Char) : Ordered (single c).ranges := List.pairwise_singleton ..

theorem contains_ofChars (cs : List Char) (c : Char) : (ofChars cs).contains c = true ↔ c ∈ cs := by
  rw [ofChars, contains_ofRanges]
  constructor
  · rintro ⟨r, hr, hle, hge⟩
    obtain ⟨d, hd, rfl⟩ := List.mem_map.1 hr
    rwa [Char.toNat_inj.1 (Nat.le_antisymm hge hle)]
  · intro h
    exact ⟨(c.toNat, c.toNat), List.mem_map.2 ⟨c, h, rfl⟩, Nat.le_refl _, Nat.le_refl _⟩

theorem contains_union {s : CharSet} (t : CharSet) (c : Char) (h : Ordered s.ranges)
    (h' : Ordered t.ranges) :
    (s.union t).contains c = true ↔ s.contains c = true ∨ t.contains c = true := by
  rw [union, contains_ofRanges, contains, contains, inRanges_iff h, inRanges_iff h']
  simp only [Covers, List.mem_append, or_and_right, exists_or]

theorem contains_single (c d : Char) : (single d).contains c = true ↔ c = d := by
  rw [contains, single, inRanges_iff (List.pairwise_singleton ..), covers_cons]
  simp only [covers_nil, or_false]
  exact ⟨fun h => Char.toNat_inj.1 (Nat.le_antisymm h.2 h.1),
    fun h => h ▸ ⟨Nat.le_refl _, Nat.le_refl _⟩⟩

end SourceMend.CharSet
