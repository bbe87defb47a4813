import Mathlib.Data.List.TakeWhile
import SourceMend.Text.Blank

/-!
# Trimming

Trimming takes away the blanks around a text without blanks (`trim_eq`), and
nothing else (`exists_trim`).
-/

namespace SourceMend.Text

theorem dropWhile_append_of_all {p : Char → Bool} {a s : Text} (ha : ∀ c ∈ a, p c = true) :
    (a ++ s).dropWhile p = s.dropWhile p := by
  induction a with
  | nil => rfl
  | cons c a ih =>
    obtain ⟨hc, ha⟩ := List.forall_mem_cons.1 ha
    rw [List.cons_append, List.dropWhile_cons_of_pos hc, ih ha]

theorem dropWhile_eq_self {α : Type} {p : α → Bool} {s : List α} (hs : ∀ c ∈ s, p c = false) :
    s.dropWhile p = s := by
  cases s with
  | nil => rfl
  | cons c s => exact List.dropWhile_cons_of_neg (by simp [hs c List.mem_cons_self])

theorem dropEndWhile_append {p : Char → Bool} {s b : Text} (hs : ∀ c ∈ s, p c = false)
    (hb : ∀ c ∈ b, p c = true) : dropEndWhile p (s ++ b) = s := by
  rw [dropEndWhile, List.reverse_append,
    dropWhile_append_of_all fun c hc => hb c (List.mem_reverse.1 hc),
    dropWhile_eq_self fun c hc => hs c (List.mem_reverse.1 hc), List.reverse_reverse]

theorem dropEndWhile_concat (p : Char → Bool) (s : Text) (c : Char) :
    dropEndWhile p (s ++ [c]) = if p c then dropEndWhile p s else s ++ [c] := by
  simp only [dropEndWhile, List.reverse_append, List.reverse_singleton, List.singleton_append,
    List.dropWhile_cons]
  split
  · rfl
  · simp

theorem dropEndWhile_eq_self {p : Char → Bool} {s : Text}
    (h : ∀ c, s.getLast? = some c → p c = false) : dropEndWhile p s = s := by
  rcases List.eq_nil_or_concat s with rfl | ⟨s, c, rfl⟩
  · rfl
  · rw [List.concat_eq_append] at h ⊢
    rw [dropEndWhile_concat, h c List.getLast?_concat]
    rfl

/-- Trimming leaves a text without blanks that has blanks around it. -/
theorem trim_eq {a s b : Text} (ha : ∀ c ∈ a, isBlank c = true) (hs : ∀ c ∈ s, isBlank c = false)
    (hb : ∀ c ∈ b, isBlank c = true) : trim (a ++ (s ++ b)) = s := by
  cases s with
  | nil =>
    have hall : ∀ c ∈ a ++ b, isBlank c = true := fun c hc =>
      (List.mem_append.1 hc).elim (ha c) (hb c)
    have hnone : (a ++ b).dropWhile isBlank = [] := by
      simpa using dropWhile_append_of_all (s := []) hall
    simp [trim, trimStart, hnone, trimEnd, dropEndWhile]
  | cons c s =>
    rw [trim, trimStart, dropWhile_append_of_all ha, List.cons_append,
      List.dropWhile_cons_of_neg (by simp [hs c List.mem_cons_self]), ← List.cons_append, trimEnd,
      dropEndWhile_append hs hb]

theorem exists_dropEndWhile (p : Char → Bool) (s : Text) :
    ∃ b, s = dropEndWhile p s ++ b ∧ ∀ c ∈ b, p c = true := by
  refine ⟨(s.reverse.takeWhile p).reverse, ?_, fun c hc =>
    List.mem_takeWhile_imp (List.mem_reverse.1 hc)⟩
  rw [dropEndWhile, ← List.reverse_append, List.takeWhile_append_dropWhile, List.reverse_reverse]

theorem not_of_mem_getLast?_dropEndWhile {p : Char → Bool} {s : Text} {c : Char}
    (h : (dropEndWhile p s).getLast? = some c) : p c = false := by
  rw [dropEndWhile, List.getLast?_reverse] at h
  have hfalse := List.head?_dropWhile_not p s.reverse
  rw [h] at hfalse
  exact hfalse

/-- The end that satisfies `p` is dropped, and no more. -/
theorem dropEndWhile_eq_iff {p : Char → Bool} {s a : Text} : dropEndWhile p s = a
    ↔ (∃ b, s = a ++ b ∧ ∀ c ∈ b, p c = true) ∧ ∀ c, a.getLast? = some c → p c = false := by
  constructor
  · rintro rfl
    exact ⟨exists_dropEndWhile p s, fun c hc => not_of_mem_getLast?_dropEndWhile hc⟩
  · rintro ⟨⟨b, rfl, hb⟩, ha⟩
    have hdrop : dropEndWhile p (a ++ b) = dropEndWhile p a := by
      rw [dropEndWhile, List.reverse_append,
        dropWhile_append_of_all fun c hc => hb c (List.mem_reverse.1 hc), dropEndWhile]
    rw [hdrop, dropEndWhile_eq_self ha]

/-- A text is what trimming leaves of it with blanks around. -/
theorem exists_trim (s : Text) : ∃ a b, s = a ++ (trim s ++ b) ∧ (∀ c ∈ a, isBlank c = true)
    ∧ ∀ c ∈ b, isBlank c = true := by
  obtain ⟨b, hs, hb⟩ := exists_dropEndWhile isBlank (trimStart s)
  refine ⟨s.takeWhile isBlank, b, ?_, fun c hc => List.mem_takeWhile_imp hc, hb⟩
  rw [trim, trimEnd, ← hs, trimStart, List.takeWhile_append_dropWhile]

end SourceMend.Text
