/-!
# Counts by name

A `Counts` gives a number to each of finitely many names.  The names are kept
ascending and distinct, so two counts that agree on every name, and hold the
same names, are equal.  A name may be held with the number zero, which reports
show and which is not the same as a name that is missing.
-/

namespace SourceMend

/-- The names of a list of counts are ascending and distinct. -/
def Counts.Ascending (es : List (String × Nat)) : Prop := es.Pairwise fun a b => a.1 < b.1

/-- Numbers by name. -/
structure Counts where
  /-- The names with their numbers. -/
  entries : List (String × Nat)
  /-- The names are ascending. -/
  ascending : Counts.Ascending entries

namespace Counts

instance : DecidableEq Counts := fun a b =>
  if h : a.entries = b.entries then isTrue (by cases a; cases b; cases h; rfl)
  else isFalse fun e => h (e ▸ rfl)

/-- Entries with `n` more for the name `k`. -/
def addEntry (k : String) (n : Nat) : List (String × Nat) → List (String × Nat)
  | [] => [(k, n)]
  | (x, m) :: r =>
    if k < x then (k, n) :: (x, m) :: r
    else if k = x then (x, m + n) :: r
    else (x, m) :: addEntry k n r

/-- A name of the result is the added one or was there before. -/
theorem mem_addEntry {k : String} {n : Nat} {e : String × Nat} {es : List (String × Nat)}
    (h : e ∈ addEntry k n es) : e.1 = k ∨ ∃ x ∈ es, x.1 = e.1 := by
  induction es with
  | nil => simp [addEntry] at h; simp [h]
  | cons x r ih =>
    obtain ⟨y, m⟩ := x
    unfold addEntry at h
    split at h
    · rcases List.mem_cons.1 h with rfl | h
      · exact .inl rfl
      · exact .inr ⟨e, h, rfl⟩
    · split at h
      · rcases List.mem_cons.1 h with rfl | h
        · exact .inr ⟨(y, m), by simp, rfl⟩
        · exact .inr ⟨e, List.mem_cons_of_mem _ h, rfl⟩
      · rcases List.mem_cons.1 h with rfl | h
        · exact .inr ⟨(y, m), by simp, rfl⟩
        · rcases ih h with h | ⟨x, hx, hxe⟩
          · exact .inl h
          · exact .inr ⟨x, List.mem_cons_of_mem _ hx, hxe⟩

/-- Adding keeps the names ascending. -/
theorem ascending_addEntry {es : List (String × Nat)} (h : Ascending es) (k : String) (n : Nat) :
    Ascending (addEntry k n es) := by
  induction es with
  | nil => simp [addEntry, Ascending]
  | cons x r ih =>
    obtain ⟨y, m⟩ := x
    have hr : Ascending r := (List.pairwise_cons.1 h).2
    have hy : ∀ e ∈ r, y < e.1 := (List.pairwise_cons.1 h).1
    unfold addEntry
    split
    · rename_i hk
      refine List.pairwise_cons.2 ⟨fun e he => ?_, h⟩
      rcases List.mem_cons.1 he with rfl | he
      · exact hk
      · exact String.lt_trans hk (hy e he)
    · rename_i hk
      split
      · exact List.pairwise_cons.2 ⟨hy, hr⟩
      · rename_i hne
        refine List.pairwise_cons.2 ⟨fun e he => ?_, ih hr⟩
        rcases mem_addEntry he with hek | ⟨x, hx, hxe⟩
        · rw [hek]
          by_cases h : y < k
          · exact h
          · exact absurd (String.le_antisymm (String.not_lt.1 h) (String.not_lt.1 hk)) hne
        · exact hxe ▸ hy x hx

/-- No name at all. -/
def empty : Counts := ⟨[], .nil⟩

instance : Inhabited Counts := ⟨empty⟩
instance : EmptyCollection Counts := ⟨empty⟩

/-- The counts with `n` more for the name `k`, which they then hold. -/
def add (c : Counts) (k : String) (n : Nat) : Counts :=
  ⟨addEntry k n c.entries, ascending_addEntry c.ascending k n⟩

/-- The counts of a list of names and numbers, those of equal names added up. -/
def ofList (es : List (String × Nat)) : Counts := es.foldl (fun c e => c.add e.1 e.2) empty

/-- The number of a name, if it is held. -/
def get? (c : Counts) (k : String) : Option Nat := c.entries.lookup k

/-- The number of a name, zero if it is not held. -/
def get (c : Counts) (k : String) : Nat := (c.get? k).getD 0

/-- The sum of all numbers. -/
def total (c : Counts) : Nat := c.entries.foldr (fun e n => e.2 + n) 0

/-- The numbers of two counts added name by name. -/
def merge (c d : Counts) : Counts := d.entries.foldl (fun c e => c.add e.1 e.2) c

end Counts
end SourceMend
