import SourceMend.Proofs.Text.Cut

/-!
# The pieces of a text

A separator splits the pieces of a text in two (`pieces_append_cons`), and no
piece holds a separator (`mem_of_mem_pieces`).  What is said of pieces is proved
from the first of them on (`cut_induction`).
-/

namespace SourceMend.Text

variable {α : Type} [DecidableEq α]

/-- A text has no separator, or it has a first one and a text after that. -/
@[elab_as_elim]
theorem cut_induction {x : α} {P : List α → Prop} (whole : ∀ s, x ∉ s → P s)
    (cut : ∀ a b, x ∉ a → P b → P (a ++ x :: b)) (s : List α) : P s := by
  induction hn : s.length using Nat.strongRecOn generalizing s with
  | ind n ih =>
    by_cases hx : x ∈ s
    · obtain ⟨a, b, rfl, ha⟩ := List.eq_append_cons_of_mem hx
      have hlt : b.length < n := by
        rw [← hn, List.length_append, List.length_cons]
        omega
      exact cut a b ha (ih b.length hlt b rfl)
    · exact whole s hx

theorem pieces_ne_nil (x : α) (s : List α) : pieces x s ≠ [] := by
  cases s with
  | nil => simp [pieces]
  | cons c r =>
    simp only [pieces]
    split
    · simp
    · split <;> simp

/-- A text without the separator is one piece. -/
theorem pieces_of_not_mem {x : α} {s : List α} (h : x ∉ s) : pieces x s = [s] := by
  induction s with
  | nil => rfl
  | cons c r ih =>
    obtain ⟨hc, hr⟩ := not_or.1 (mt List.mem_cons.2 h)
    simp [pieces, Ne.symm hc, ih hr]

/-- The pieces on the two sides of a separator. -/
theorem pieces_append_cons (x : α) (a b : List α) :
    pieces x (a ++ x :: b) = pieces x a ++ pieces x b := by
  induction a with
  | nil => simp [pieces]
  | cons c r ih =>
    simp only [List.cons_append, pieces]
    split
    · simp [ih]
    · rw [ih]
      cases hp : pieces x r with
      | nil => exact absurd hp (pieces_ne_nil x r)
      | cons p ps => simp

/-- Pieces without a separator, with separators between them, are the pieces of what they make up. -/
theorem pieces_intercalate {x : α} {ps : List (List α)} (hne : ps ≠ []) (h : ∀ p ∈ ps, x ∉ p) :
    pieces x ([x].intercalate ps) = ps := by
  induction ps with
  | nil => exact absurd rfl hne
  | cons p ps ih =>
    obtain ⟨hp, hps⟩ := List.forall_mem_cons.1 h
    cases ps with
    | nil => rw [List.intercalate_singleton, pieces_of_not_mem hp]
    | cons q ps =>
      rw [List.intercalate_cons_cons, List.append_assoc, List.singleton_append, pieces_append_cons,
        pieces_of_not_mem hp, ih (List.cons_ne_nil q ps) hps]
      rfl

/-- The last piece is the text after the last separator. -/
theorem exists_append_of_pieces {x : α} {s last : List α} {init : List (List α)} (hinit : init ≠ [])
    (h : pieces x s = init ++ [last]) : ∃ u, s = u ++ x :: last := by
  cases hcut : cutLast x s with
  | none =>
    have hone : [] ++ [s] = init ++ [last] := by
      rwa [pieces_of_not_mem (not_mem_of_cutLast hcut)] at h
    exact absurd (List.append_inj_left' hone rfl).symm hinit
  | some p =>
    obtain ⟨rfl, hlast⟩ := cutLast_eq_some_iff.1 hcut
    rw [pieces_append_cons, pieces_of_not_mem hlast] at h
    obtain rfl : p.2 = last := List.singleton_inj.1 (List.append_inj_right' h rfl)
    exact ⟨p.1, rfl⟩

/-- What follows the pieces without a separator belongs to the last one. -/
theorem pieces_append_of_not_mem {x : α} {s last v : List α} {init : List (List α)}
    (h : pieces x s = init ++ [last]) (hv : x ∉ v) : pieces x (s ++ v) = init ++ [last ++ v] := by
  cases hcut : cutLast x s with
  | none =>
    have hs := not_mem_of_cutLast hcut
    have hone : [] ++ [s] = init ++ [last] := by rwa [pieces_of_not_mem hs] at h
    obtain ⟨rfl, hl⟩ := List.append_inj' hone rfl
    obtain rfl := List.singleton_inj.1 hl
    exact pieces_of_not_mem (List.not_mem_append hs hv)
  | some p =>
    obtain ⟨rfl, hlast⟩ := cutLast_eq_some_iff.1 hcut
    rw [pieces_append_cons, pieces_of_not_mem hlast] at h
    obtain ⟨rfl, hl⟩ := List.append_inj' h rfl
    obtain rfl := List.singleton_inj.1 hl
    rw [List.append_assoc, List.cons_append, pieces_append_cons,
      pieces_of_not_mem (List.not_mem_append hlast hv)]

/-- A character of a piece is one of the text, and no separator. -/
theorem mem_of_mem_pieces {x c : α} {s p : List α} (hp : p ∈ pieces x s) (hc : c ∈ p) :
    c ∈ s ∧ c ≠ x := by
  induction s generalizing p with
  | nil =>
    simp only [pieces, List.mem_singleton] at hp
    subst hp
    simp at hc
  | cons d r ih =>
    simp only [pieces] at hp
    split at hp
    · rcases List.mem_cons.1 hp with rfl | hp
      · simp at hc
      · exact (ih hp hc).imp (List.mem_cons_of_mem d) id
    · next hd =>
      cases hps : pieces x r with
      | nil => exact absurd hps (pieces_ne_nil x r)
      | cons q qs =>
        rw [hps] at hp
        rcases List.mem_cons.1 hp with rfl | hp
        · rcases List.mem_cons.1 hc with rfl | hc
          · exact ⟨List.mem_cons_self, hd⟩
          · exact (ih (hps ▸ List.mem_cons_self) hc).imp (List.mem_cons_of_mem d) id
        · exact (ih (hps ▸ List.mem_cons_of_mem q hp) hc).imp (List.mem_cons_of_mem d) id

/-- A character of a text that is no separator is in a piece. -/
theorem exists_mem_pieces {x c : α} {s : List α} (hc : c ∈ s) (hne : c ≠ x) :
    ∃ p ∈ pieces x s, c ∈ p := by
  induction s using cut_induction (x := x) with
  | whole s hs => exact ⟨s, by simp [pieces_of_not_mem hs], hc⟩
  | cut a b ha ih =>
    rw [pieces_append_cons, pieces_of_not_mem ha]
    rcases List.mem_append.1 hc with hc | hc
    · exact ⟨a, by simp, hc⟩
    · obtain ⟨p, hp, hcp⟩ := ih ((List.mem_cons.1 hc).resolve_left hne)
      exact ⟨p, List.mem_append_right _ hp, hcp⟩

end SourceMend.Text
