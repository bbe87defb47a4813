import SourceMend.Proofs.Tree.Replacement

/-!
# Where the copy of a file goes

The copy of a file goes to the first of some names that is free (`Backup.place`).
In a tree that keeps another a name in use is still in use, so the copy goes to the same
place unless something has come to stand there (`Backup.place_keeps`).  When no
copy can be made it stays so and for the same reason, except that what is missing
may come to exist.
-/

namespace SourceMend

namespace Tree

variable {t t' : Tree} {p : Path} {l c : Location} {f : Fault} {bytes : ByteArray}

namespace Keeps

/-- A piece that leads nowhere otherwise than for want of something still leads nowhere. -/
theorem enters_error {piece : List UInt8} (h : t.Keeps t') (he : Enters t l piece (.error f))
    (hf : f ≠ .notFound) : Enters t' l piece (.error f) := by
  cases he with
  | missing => exact absurd rfl hf
  | file hfile =>
    obtain ⟨new, hnew⟩ := h.file l _ hfile
    exact .file hnew
  | tooLong hdir hidle hup hlen => exact .tooLong (h.directory l hdir) hidle hup hlen
  | absent => exact absurd rfl hf

/-- A walk that fails otherwise than for want of something still fails so. -/
theorem walk_error (h : t.Keeps t') {ps : List (List UInt8)} (hw : t.walk l ps = .error f)
    (hf : f ≠ .notFound) : t'.walk l ps = .error f := by
  induction ps generalizing l with
  | nil => cases hw
  | cons piece rest ih =>
    rcases walk_cons_eq_error.1 hw with he | ⟨k, hk, hrest⟩
    · exact walk_cons_eq_error.2 (.inl (h.enters_error he hf))
    · exact walk_cons_eq_error.2 (.inr ⟨k, h.enters hk, ih hrest⟩)

/-- A walk ends as it did, unless something was missing. -/
theorem walk_eq (h : t.Keeps t') {ps : List (List UInt8)} (hw : t.walk l ps ≠ .error .notFound) :
    t'.walk l ps = t.walk l ps := by
  cases hd : t.walk l ps with
  | error f => exact h.walk_error hd fun hf => hw (hf ▸ hd)
  | ok d => exact h.walk hd

/-- A directory offers the place that it offered for an entry. -/
theorem entryAt_eq (h : t.Keeps t') {last : List UInt8} {asDirectory : Bool}
    (hl : t.entryAt l last asDirectory ≠ .error .notFound) :
    t'.entryAt l last asDirectory = t.entryAt l last asDirectory := by
  cases hg : t.get? l with
  | none => exact absurd (by simp [entryAt, hg]) hl
  | some e =>
    cases e with
    | file bytes =>
      obtain ⟨bytes', hg'⟩ := h.file l bytes hg
      simp [entryAt, hg, hg']
    | directory => simp [entryAt, hg, h.directory l hg]

/-- The path of a new file leads where it led, unless something was missing. -/
theorem locateNew_eq (h : t.Keeps t') (hl : t.locateNew p ≠ .error .notFound) :
    t'.locateNew p = t.locateNew p := by
  simp only [locateNew, h.start, bind, Except.bind] at hl ⊢
  cases hs : t.start p with
  | error f => rfl
  | ok x =>
    simp only [hs] at hl ⊢
    split at hl
    · exact h.walk_eq hl
    · split at hl
      · next hdots => simpa only [hdots, if_true] using h.walk_eq hl
      · next hname =>
        simp only [hname, Bool.false_eq_true, if_false]
        cases hd : t.walk x.1 _ with
        | error f =>
          rw [hd] at hl
          simp only [h.walk_error hd fun hf => hl (hf ▸ rfl)]
        | ok d =>
          rw [hd] at hl
          simp only [h.walk hd, h.entryAt_eq hl]

/-- A file that cannot be created otherwise than for want of something still cannot. -/
theorem create_error (h : t.Keeps t') (hc : t.create p bytes = .error f) (hf : f ≠ .notFound) :
    t'.create p bytes = .error f := by
  simp only [create, bind, Except.bind] at hc ⊢
  cases hpermit : permit p with
  | error e => simpa only [hpermit] using hc
  | ok _ =>
    simp only [hpermit] at hc ⊢
    cases hl : t.locateNew p with
    | error e =>
      simp only [hl, Except.error.injEq] at hc
      have hne : t.locateNew p ≠ .error .notFound := by simpa [hl, hc] using hf
      simp only [h.locateNew_eq hne, hl, hc]
    | ok l =>
      have hne : t.locateNew p ≠ .error .notFound := by simp [hl]
      simp only [h.locateNew_eq hne, hl] at hc ⊢
      split at hc
      · next hsome => rwa [if_pos (h.isSome hsome)]
      · cases hc

end Keeps
end Tree

namespace Backup

variable {t t' t₁ : Tree} {bytes : ByteArray} {p : Path} {c : Location} {f : Fault}
  {naming : Naming}

/-- Where the copy of a file goes, or why none can be made. -/
def place (t : Tree) (naming : Naming) (p : Path) : Except Fault Location := do
  let bytes ← t.read p
  let (b, _) ← write t p bytes naming
  t.locateNew b.copy

theorem place_of_write {b : Backup} (hread : t.read p = .ok bytes)
    (hw : write t p bytes naming = .ok (b, t₁)) : place t naming p = t.locateNew b.copy := by
  simp [place, hread, hw, bind, Except.bind]

theorem place_of_write_error (hread : t.read p = .ok bytes)
    (hw : write t p bytes naming = .error f) : place t naming p = .error f := by
  simp [place, hread, hw, bind, Except.bind]

/-- Nothing stands where the copy of a file goes. -/
theorem get?_of_place (h : place t naming p = .ok c) : t.get? c = none := by
  simp only [place, bind, Except.bind] at h
  split at h
  · cases h
  · split at h
    · cases h
    · next hw =>
      obtain ⟨-, k, hk, hfree, -⟩ := write_eq_ok hw
      obtain rfl := Except.ok.inj (hk.symm.trans h)
      exact hfree

/-- The copy stays where it would go, if nothing has come there. -/
theorem write_keeps {b : Backup} (h : t.Keeps t') (hw : write t p bytes naming = .ok (b, t₁))
    (hc : t.locateNew b.copy = .ok c) (hfree : t'.get? c = none) :
    write t' p bytes naming = .ok (b, t'.put c (.file bytes)) := by
  obtain ⟨hfile, n, hn, hcopy, hok, hbefore⟩ := write_eq_ok_iff.1 hw
  have hnew : t'.locateNew b.copy = .ok c := by rw [h.locateNew_eq (by simp [hc]), hc]
  have hcreate : t'.create b.copy bytes = .ok (t'.put c (.file bytes)) := by
    simp [Tree.create, (Tree.create_eq_ok hok).1, hnew, hfree, bind, Except.bind, pure, Except.pure]
  exact write_eq_ok_iff.2 ⟨hfile, n, hn, hcopy, hcreate,
    fun k hk => h.create_error (hbefore k hk) (by simp)⟩

theorem write_error_keeps (h : t.Keeps t') (hw : write t p bytes naming = .error f)
    (hf : f ≠ .notFound) : write t' p bytes naming = .error f := by
  rcases write_eq_error_iff.1 hw with ⟨rfl, hall⟩ | ⟨n, hn, hcreate, hocc, hbefore⟩
  · exact write_eq_error_iff.2 (.inl ⟨rfl, fun k hk => h.create_error (hall k hk) (by simp)⟩)
  · exact write_eq_error_iff.2 (.inr ⟨n, hn, h.create_error hcreate hf, hocc,
      fun k hk => h.create_error (hbefore k hk) (by simp)⟩)

/-- A file goes on having its place for a copy, if nothing has come there. -/
theorem place_keeps (h : t.Keeps t') (hread : t.read p = .ok bytes) (hread' : t'.read p = .ok bytes)
    (hfound : place t naming p ≠ .error .notFound)
    (hfree : ∀ c, place t naming p = .ok c → t'.get? c = none) :
    place t' naming p = place t naming p := by
  cases hw : write t p bytes naming with
  | error f =>
    have hplace := place_of_write_error hread hw
    have hf : f ≠ .notFound := fun hf => hfound (hplace.trans (hf ▸ rfl))
    rw [hplace, place_of_write_error hread' (write_error_keeps h hw hf)]
  | ok x =>
    obtain ⟨-, c, hc, -⟩ := write_eq_ok hw
    have hplace := (place_of_write hread hw).trans hc
    have hw' := write_keeps h hw hc (hfree c hplace)
    rw [hplace, place_of_write hread' hw', h.locateNew_eq (by simp [hc]), hc]

end Backup
end SourceMend
