import SourceMend.Fault
import SourceMend.Path

/-!
# Entries of a tree

What exists is a list of entries, each a file or a directory under its
*location*, the names that lead to it from the root directory.  The entries are
ascending by location and at most one stands under each.  `place` puts an entry
where it belongs, and keeps them so.
-/

namespace SourceMend

/-- The names that lead from the root directory to a file or directory. -/
abbrev Location := List RawText

/-- What stands at a location. -/
inductive Entry where
  /-- A file with its bytes. -/
  | file (bytes : ByteArray)
  /-- A directory. -/
  | directory

/-- Files are equal when their bytes are. -/
instance : DecidableEq Entry
  | .file a, .file b =>
    if h : a.data = b.data then isTrue (by cases a; cases b; simp_all)
    else isFalse fun e => h (by cases e; rfl)
  | .file _, .directory => isFalse nofun
  | .directory, .file _ => isFalse nofun
  | .directory, .directory => isTrue rfl

namespace Tree

/-! ## Entries -/

/-- Whether a location comes before another: by the first name that differs. -/
def before : Location → Location → Bool
  | [], [] => false
  | [], _ :: _ => true
  | _ :: _, [] => false
  | a :: as, b :: bs => decide (a < b) || (a == b && before as bs)

theorem before_irrefl (l : Location) : before l l = false := by
  induction l with
  | nil => rfl
  | cons a as ih => simp [before, ih]

theorem before_trans {k l m : Location} (hkl : before k l = true) (hlm : before l m = true) :
    before k m = true := by
  induction k generalizing l m with
  | nil =>
    match l, m with
    | _ :: _, _ :: _ => rfl
  | cons a as ih =>
    match l, m with
    | b :: bs, c :: cs =>
      simp only [before, Bool.or_eq_true, decide_eq_true_eq, Bool.and_eq_true, beq_iff_eq]
        at hkl hlm ⊢
      rcases hkl with hab | ⟨rfl, hab⟩
      · rcases hlm with hbc | ⟨rfl, _⟩
        · exact .inl (RawText.lt_trans hab hbc)
        · exact .inl hab
      · rcases hlm with hbc | ⟨rfl, hbc⟩
        · exact .inl hbc
        · exact .inr ⟨rfl, ih hab hbc⟩

/-- Of two different locations one comes first. -/
theorem before_of_not_before {k l : Location} (hne : k ≠ l) (h : before l k = false) :
    before k l = true := by
  induction k generalizing l with
  | nil =>
    match l with
    | [] => exact absurd rfl hne
    | _ :: _ => rfl
  | cons a as ih =>
    match l with
    | [] => simp [before] at h
    | b :: bs =>
      simp only [before, Bool.or_eq_false_iff, decide_eq_false_iff_not, Bool.and_eq_false_iff,
        beq_eq_false_iff_ne] at h
      simp only [before, Bool.or_eq_true, decide_eq_true_eq, Bool.and_eq_true, beq_iff_eq]
      by_cases hab : a = b
      · subst hab
        have hrest : before bs as = false := h.2.resolve_left fun hne => hne rfl
        exact .inr ⟨rfl, ih (fun he => hne (he ▸ rfl)) hrest⟩
      · by_cases hlt : a < b
        · exact .inl hlt
        · exact absurd (RawText.eq_of_not_lt hlt h.1) hab

/-- Entries with `e` at the location `l`. -/
def place (l : Location) (e : Entry) : List (Location × Entry) → List (Location × Entry)
  | [] => [(l, e)]
  | (k, x) :: r =>
    if k = l then (l, e) :: r
    else if before l k then (l, e) :: (k, x) :: r
    else (k, x) :: place l e r

/-- An entry of the result is the placed one or was there before. -/
theorem mem_of_mem_place {l : Location} {e : Entry} {x : Location × Entry}
    {es : List (Location × Entry)} (h : x ∈ place l e es) : x = (l, e) ∨ x ∈ es := by
  induction es with
  | nil => simpa [place] using h
  | cons y r ih =>
    simp only [place] at h
    split at h
    · rcases List.mem_cons.1 h with rfl | h
      · exact .inl rfl
      · exact .inr (List.mem_cons_of_mem _ h)
    · split at h
      · rcases List.mem_cons.1 h with rfl | h
        · exact .inl rfl
        · exact .inr h
      · rcases List.mem_cons.1 h with rfl | h
        · exact .inr List.mem_cons_self
        · exact (ih h).imp id (List.mem_cons_of_mem _)

theorem mem_place_self (l : Location) (e : Entry) (es : List (Location × Entry)) :
    (l, e) ∈ place l e es := by
  induction es with
  | nil => simp [place]
  | cons y r ih =>
    simp only [place]
    split
    · simp
    · split
      · simp
      · exact List.mem_cons_of_mem _ ih

/-- What stands elsewhere stays. -/
theorem mem_place_of_ne {l : Location} {e : Entry} {x : Location × Entry}
    {es : List (Location × Entry)} (hx : x ∈ es) (hne : x.1 ≠ l) : x ∈ place l e es := by
  induction es with
  | nil => simp at hx
  | cons y r ih =>
    simp only [place]
    split
    · next hk =>
      rcases List.mem_cons.1 hx with rfl | hx
      · exact absurd hk hne
      · exact List.mem_cons_of_mem _ hx
    · split
      · exact List.mem_cons_of_mem _ hx
      · rcases List.mem_cons.1 hx with rfl | hx
        · exact List.mem_cons_self
        · exact List.mem_cons_of_mem _ (ih hx)

/-- The locations of entries are ascending and distinct. -/
def Ascending (es : List (Location × Entry)) : Prop :=
  es.Pairwise fun x y => before x.1 y.1 = true

/-- Placing an entry keeps the locations ascending. -/
theorem Ascending.place {es : List (Location × Entry)} (h : Ascending es) (l : Location)
    (e : Entry) : Ascending (place l e es) := by
  induction es with
  | nil => simp [Tree.place, Ascending]
  | cons y r ih =>
    obtain ⟨hy, hr⟩ := List.pairwise_cons.1 h
    simp only [Tree.place]
    split
    · next hk => exact List.pairwise_cons.2 ⟨fun x hx => hk ▸ hy x hx, hr⟩
    · next hne =>
      split
      · next hl =>
        refine List.pairwise_cons.2 ⟨fun x hx => ?_, h⟩
        rcases List.mem_cons.1 hx with rfl | hx
        · exact hl
        · exact before_trans hl (hy x hx)
      · next hl =>
        refine List.pairwise_cons.2 ⟨fun x hx => ?_, ih hr⟩
        rcases mem_of_mem_place hx with rfl | hx
        · exact before_of_not_before hne (Bool.eq_false_iff.2 hl)
        · exact hy x hx

/-- In ascending entries the one under a location is the one that is found there. -/
theorem Ascending.lookup_eq_some_iff {es : List (Location × Entry)} (h : Ascending es)
    {l : Location} {e : Entry} : es.lookup l = some e ↔ (l, e) ∈ es := by
  induction es with
  | nil => simp
  | cons y r ih =>
    obtain ⟨k, x⟩ := y
    obtain ⟨hy, hr⟩ := List.pairwise_cons.1 h
    by_cases hl : l = k
    · subst hl
      have hnot : (l, e) ∉ r := fun hmem => by
        have := hy _ hmem
        simp [before_irrefl] at this
      simp [hnot, eq_comm]
    · have hbeq : (l == k) = false := beq_eq_false_iff_ne.2 hl
      simp [List.lookup_cons, hbeq, ih hr, hl]

end Tree
end SourceMend
