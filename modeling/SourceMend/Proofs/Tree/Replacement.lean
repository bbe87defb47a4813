import SourceMend.Proofs.Backup.Search
import SourceMend.Proofs.Tree.Resolve

/-!
# Replacing a file after copying it

A file is replaced in two steps: its bytes are copied to a place where nothing
is, and then the file gets new bytes.  `Replaces` describes the result, and
`get?_of_replaces` is what it means for every location.  A tree *retains*
another when it keeps it and no content is gone (`Retains`), and a replacement
retains the tree (`Replaces.retains`).
-/

namespace SourceMend

/-! ## The copy -/

namespace Backup

variable {t t' : Tree} {bytes : ByteArray}

/-- The copy is made where nothing is. -/
theorem write_eq_ok {file : Path} {naming : Naming} {b : Backup}
    (h : write t file bytes naming = .ok (b, t')) :
    b.file = file
      ∧ ∃ c, t.locateNew b.copy = .ok c ∧ t.get? c = none ∧ t' = t.put c (.file bytes) := by
  obtain ⟨hfile, _, _, _, hcreate, _⟩ := write_eq_ok_iff.1 h
  exact ⟨hfile, (Tree.create_eq_ok hcreate).2⟩

end Backup

/-! ## The replacement -/

namespace Tree

variable {t t' t'' : Tree} {p copy : Path} {old new : ByteArray}

/-- The file at `p` has been copied and given new bytes. -/
structure Replaces (t : Tree) (p copy : Path) (old new : ByteArray) (l c : Location)
    (t' : Tree) : Prop where
  /-- Where the file is. -/
  locate : t.locate p = .ok l
  /-- What it held. -/
  held : t.get? l = some (.file old)
  /-- Where the copy goes. -/
  locateCopy : t.locateNew copy = .ok c
  /-- Nothing was there. -/
  free : t.get? c = none
  /-- What becomes of the tree. -/
  result : t' = (t.put c (.file old)).put l (.file new)

namespace Replaces

variable {l c m : Location}

theorem ne (h : t.Replaces p copy old new l c t') : l ≠ c := by
  rintro rfl
  have := h.held.symm.trans h.free
  cases this

theorem fits_copy (h : t.Replaces p copy old new l c t') : t.fits c (.file old) = true :=
  fits_of_locateNew h.locateCopy (by simp [h.free])

theorem get?_copied (h : t.Replaces p copy old new l c t') :
    (t.put c (.file old)).get? l = some (.file old) := by
  rw [get?_put h.fits_copy, if_neg h.ne, h.held]

theorem fits_file (h : t.Replaces p copy old new l c t') :
    (t.put c (.file old)).fits l (.file new) = true := by
  have hlocate := (keeps_put_file h.fits_copy).locate h.locate
  exact fits_of_locateNew (locateNew_of_locate hlocate h.get?_copied) (by simp [h.get?_copied])

/-- What stands where after the replacement. -/
theorem get?_eq (h : t.Replaces p copy old new l c t') (m : Location) :
    t'.get? m
      = if m = l then some (.file new) else if m = c then some (.file old) else t.get? m := by
  rw [h.result, get?_put h.fits_file, get?_put h.fits_copy]

theorem keeps (h : t.Replaces p copy old new l c t') : t.Keeps t' :=
  h.result ▸ (keeps_put_file h.fits_copy).trans (keeps_put_file h.fits_file)

/-- What existed elsewhere is untouched. -/
theorem get?_of_ne (h : t.Replaces p copy old new l c t') (hne : m ≠ l)
    (hsome : (t.get? m).isSome) : t'.get? m = t.get? m := by
  have hc : m ≠ c := by
    rintro rfl
    simp [h.free] at hsome
  rw [h.get?_eq, if_neg hne, if_neg hc]

theorem locate_copy (h : t.Replaces p copy old new l c t') : t'.locate copy = .ok c :=
  h.keeps.locate_of_locateNew h.locateCopy (by simp [h.free])
    (by simp [h.get?_eq, Ne.symm h.ne])

end Replaces

/-! ## Retained contents -/

/-- The tree is kept, and every content of a file is still the content of some file. -/
structure Retains (t t' : Tree) : Prop where
  /-- Files and directories stay. -/
  keeps : t.Keeps t'
  /-- Contents stay. -/
  content : ∀ l bytes, t.get? l = some (.file bytes) → ∃ m, t'.get? m = some (.file bytes)

namespace Retains

theorem refl (t : Tree) : t.Retains t := ⟨.refl t, fun l _ h => ⟨l, h⟩⟩

theorem trans (h : t.Retains t') (h' : t'.Retains t'') : t.Retains t'' where
  keeps := h.keeps.trans h'.keeps
  content l bytes hl :=
    let ⟨m, hm⟩ := h.content l bytes hl
    h'.content m bytes hm

end Retains

/-- What a replaced file held is in its copy, and every other content is where it was. -/
theorem Replaces.retains {l c : Location} (h : t.Replaces p copy old new l c t') :
    t.Retains t' where
  keeps := h.keeps
  content m bytes hm := by
    by_cases hml : m = l
    · subst hml
      obtain rfl : old = bytes := by simpa [h.held] using hm
      exact ⟨c, by simp [h.get?_eq, Ne.symm h.ne]⟩
    · exact ⟨m, by rw [h.get?_of_ne hml (by simp [hm]), hm]⟩

end Tree
end SourceMend
