import SourceMend.Proofs.Path.Components
import SourceMend.Proofs.Tree.Entering

/-!
# Where a new file goes

A file is created or overwritten by a path whose last piece is a name and whose pieces before lead
to a directory (`NameIn`), if the name is not too long (`LeadsInto`).  A path that ends otherwise
leads to a directory, if anywhere (`leadsInto_or_of_locateNew`).  The path of a file leads to where
the file would be created (`locateNew_of_locate`).
-/

namespace SourceMend.Tree

open RawText (slash dot)

variable {t t' : Tree} {p : Path} {l m d : Location} {bytes : ByteArray} {last : List UInt8}
  {init : List (List UInt8)}

/-! ## Entries of a directory -/

theorem entryAt_eq_ok_iff {asDirectory : Bool} : t.entryAt d last asDirectory = .ok l
    ↔ t.get? d = some .directory ∧ asDirectory = false ∧ last.length ≤ nameLimit
      ∧ l = d ++ [⟨last⟩] := by
  unfold entryAt
  split
  · next h => simp [h]
  · next h => simp [h]
  · next h =>
    cases asDirectory with
    | true => simp [h]
    | false =>
      by_cases hlen : last.length ≤ nameLimit
      · simp [h, hlen, Nat.not_lt.2 hlen, eq_comm]
      · simp [h, hlen, Nat.not_le.1 hlen]

/-- Dots lead to a directory. -/
theorem directory_of_walk_dots (hdots : Path.isIdle last = true ∨ last = [dot, dot])
    (h : t.walk l (init ++ [last]) = .ok m) : t.get? m = some .directory := by
  rw [walk_append] at h
  cases hd : t.walk l init with
  | error f => rw [hd] at h; cases h
  | ok d =>
    rw [hd] at h
    have hentered : Enters t d last (.ok m) := h ▸ enters t d last
    cases hentered with
    | idle hdir => exact hdir
    | up hdir => exact get?_dropLast hdir
    | name _ hidle hup => exact absurd hdots (by simp [hidle, hup])

/-! ## Paths that end with a name -/

/-- That a path is the name `last` in an existing directory, however long the name is. -/
structure NameIn (t : Tree) (p : Path) (d : Location) (last : List UInt8) : Prop where
  /-- The path is cut before its last piece. -/
  cut : ∃ init, t.start p = .ok (t.origin p, init ++ [last]) ∧ t.walk (t.origin p) init = .ok d
  /-- The first part leads to a directory. -/
  directory : t.get? d = some .directory
  /-- The last piece is not idle. -/
  idle : Path.isIdle last = false
  /-- The last piece does not go up. -/
  up : last ≠ [dot, dot]

/-- The path of a new file is the name `last` in a directory, and the name is not too long. -/
structure LeadsInto (t : Tree) (p : Path) (d : Location) (last : List UInt8) : Prop
    extends NameIn t p d last where
  /-- The name is not too long. -/
  short : last.length ≤ nameLimit

/-- A path that ends with a name is cut there. -/
theorem locateNew_of_start (hs : t.start p = .ok (l, init ++ [last]))
    (hidle : Path.isIdle last = false) (hup : last ≠ [dot, dot]) :
    t.locateNew p = (t.walk l init).bind fun d => t.entryAt d last false := by
  have hne : last ≠ [] := (Path.isIdle_eq_false_iff.1 hidle).1
  simp [locateNew, hs, hidle, hup, hne, bind, Except.bind]

/-- A new file goes under the name, unless that is too long. -/
theorem NameIn.locateNew (h : t.NameIn p d last) : t.locateNew p
    = if nameLimit < last.length then .error .nameTooLong else .ok (d ++ [⟨last⟩]) := by
  obtain ⟨init, hs, hd⟩ := h.cut
  rw [locateNew_of_start hs h.idle h.up, hd]
  simp [Except.bind, entryAt, h.directory]

theorem LeadsInto.locateNew (h : t.LeadsInto p d last) : t.locateNew p = .ok (d ++ [⟨last⟩]) :=
  h.toNameIn.locateNew.trans (if_neg (Nat.not_lt.2 h.short))

/-- A path has a last piece. -/
theorem exists_pieces_append (p : Path) :
    ∃ init last, Text.pieces slash p.text.bytes = init ++ [last] := by
  rcases List.eq_nil_or_concat (Text.pieces slash p.text.bytes) with hnil | ⟨init, last, heq⟩
  · exact absurd hnil (Text.pieces_ne_nil _ _)
  · exact ⟨init, last, by rw [heq, List.concat_eq_append]⟩

/-- Pieces of which the last is not empty end with it. -/
theorem eq_append_of_dropWhile {ps front : List (List UInt8)} (hlast : ps.getLast? ≠ some [])
    (h : ps.reverse.dropWhile (·.isEmpty) = last :: front) : ps = front.reverse ++ [last] := by
  have hkept : ps.reverse.dropWhile (·.isEmpty) = ps.reverse := by
    rcases List.eq_nil_or_concat ps with rfl | ⟨init, x, rfl⟩
    · rfl
    · have hx : x ≠ [] := by
        rintro rfl
        simp at hlast
      simp [hx]
  rw [← List.reverse_reverse ps, ← hkept, h, List.reverse_cons]

/-- A new file goes by a path that ends with a name, and other paths lead to directories. -/
theorem leadsInto_or_of_locateNew (h : t.locateNew p = .ok l) :
    (∃ d last, t.LeadsInto p d last ∧ l = d ++ [⟨last⟩])
      ∨ t.locate p = .ok l ∧ t.get? l = some .directory := by
  simp only [Tree.locateNew, bind, Except.bind] at h
  split at h
  · cases h
  · next x hs =>
    obtain ⟨rfl, -⟩ := start_eq_ok hs
    obtain ⟨init, final, hcut⟩ := exists_pieces_append p
    have hempty (hfinal : final = []) (hw : t.walk (t.origin p) (init ++ [final]) = .ok l) :
        t.get? l = some .directory :=
      directory_of_walk_dots (.inl (by simp [hfinal, Path.isIdle])) hw
    rw [hcut] at hs h
    split at h
    · next hends =>
      refine .inr ⟨by rw [locate_eq hs, h], hempty ?_ h⟩
      by_contra hfinal
      simp [hfinal] at hends
    · next last front hends =>
      simp only [Bool.or_eq_true, decide_eq_true_eq] at h
      split at h
      · next hdots =>
        refine .inr ⟨by rw [locate_eq hs, h], ?_⟩
        by_cases hfinal : final = []
        · exact hempty hfinal h
        · have hlast := eq_append_of_dropWhile (by simpa using hfinal) hends
          obtain rfl : final = last := by simpa using (List.append_inj' hlast rfl).2
          exact directory_of_walk_dots hdots h
      · next hname =>
        obtain ⟨hidle, hup⟩ := not_or.1 hname
        split at h
        · cases h
        · next d hd =>
          obtain ⟨hparent, hfile, hlen, rfl⟩ := entryAt_eq_ok_iff.1 h
          have hlast := eq_append_of_dropWhile (of_decide_eq_false hfile) hends
          exact .inl ⟨d, last, ⟨⟨⟨front.reverse, by rw [hs, ← hlast], hd⟩, hparent,
            Bool.eq_false_iff.2 hidle, hup⟩, hlen⟩, rfl⟩

/-- Where no directory stands, a new file goes by a path that ends with a name. -/
theorem leadsInto_of_locateNew (h : t.locateNew p = .ok l) (hdir : t.get? l ≠ some .directory) :
    ∃ d last, t.LeadsInto p d last ∧ l = d ++ [⟨last⟩] :=
  (leadsInto_or_of_locateNew h).resolve_right fun h => hdir h.2

/-- A piece of a path without zero bytes is a name, unless it is idle, goes up or is too long. -/
theorem LeadsInto.isName (h : t.LeadsInto p d last) : Tree.isName ⟨last⟩ = true := by
  obtain ⟨init, hs, -⟩ := h.cut
  obtain ⟨heq, hnul⟩ := start_eq_ok hs
  have hmem : last ∈ Text.pieces slash p.text.bytes := by
    rw [← (Prod.mk.inj heq).2]
    simp
  have hslash : slash ∉ last := fun hc => (Text.mem_of_mem_pieces hmem hc).2 rfl
  have hzero : 0 ∉ last := fun hc => hnul (Text.mem_of_mem_pieces hmem hc).1
  simp [Tree.isName, h.idle, h.up, hslash, hzero, h.short]

theorem leadsInto_of_locate (h : t.locate p = .ok l) (hfile : t.get? l = some (.file bytes)) :
    ∃ d last, t.LeadsInto p d last ∧ l = d ++ [⟨last⟩] := by
  have hs := start_of_locate h
  obtain ⟨init, last, hcut⟩ := exists_pieces_append p
  rw [hcut] at hs
  rw [locate_eq hs, walk_append] at h
  cases hd : t.walk (t.origin p) init with
  | error f => rw [hd] at h; cases h
  | ok d =>
    rw [hd] at h
    obtain ⟨hidle, hup, rfl, hdir, hlen⟩ := walk_singleton_file h hfile
    exact ⟨d, last, ⟨⟨⟨init, hs, hd⟩, hdir, hidle, hup⟩, hlen⟩, rfl⟩

/-- The path of a file leads to where the file would be created. -/
theorem locateNew_of_locate (h : t.locate p = .ok l) (hfile : t.get? l = some (.file bytes)) :
    t.locateNew p = .ok l := by
  obtain ⟨d, last, hlead, rfl⟩ := leadsInto_of_locate h hfile
  exact hlead.locateNew

/-! ## Creating and writing -/

/-- A file fits where a new file goes and no directory stands. -/
theorem fits_of_locateNew (h : t.locateNew p = .ok l) (hdir : t.get? l ≠ some .directory) :
    t.fits l (.file bytes) = true := by
  obtain ⟨d, last, hlead, rfl⟩ := leadsInto_of_locateNew h hdir
  simp [fits, hlead.isName, hlead.directory, hdir]

/-- A file is created where nothing exists. -/
theorem create_eq_ok (h : t.create p bytes = .ok t') : permit p = .ok ()
    ∧ ∃ l, t.locateNew p = .ok l ∧ t.get? l = none ∧ t' = t.put l (.file bytes) := by
  simp only [create, bind, Except.bind] at h
  split at h
  · cases h
  · next hpermit =>
    split at h
    · cases h
    · next l hl =>
      split at h
      · cases h
      · next hfree =>
        cases h
        exact ⟨hpermit, l, hl, by simpa using hfree, rfl⟩

/-- Writing succeeds where no directory exists. -/
theorem write_of_locateNew (bytes : ByteArray) (hpermit : permit p = .ok ())
    (h : t.locateNew p = .ok l) (hdir : t.get? l ≠ some .directory) :
    t.write p bytes = .ok (t.put l (.file bytes)) := by
  simp [write, hpermit, h, hdir, bind, Except.bind, pure, Except.pure]

end SourceMend.Tree
