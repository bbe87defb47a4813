import SourceMend.Proofs.Tree.Creation

/-!
# Paths that keep their meaning

A tree *keeps* another when every directory of it is still a directory and every
file still a file, perhaps with other bytes.  A path that resolves in a tree
resolves to the same location in every tree that keeps it (`Keeps.locate`).
Creating and writing files keep a tree (`keeps_put_file`).
-/

namespace SourceMend.Tree

open RawText (slash dot)

variable {t t' : Tree} {p : Path} {l m d : Location} {e : Entry} {n : RawText} {bytes : ByteArray}

/-! ## Reading -/

/-- Reading finds a file. -/
theorem read_eq_ok : t.read p = .ok bytes ↔
    ∃ l, t.locate p = .ok l ∧ t.get? l = some (.file bytes) := by
  simp only [read, bind, Except.bind]
  cases hl : t.locate p with
  | error f => simp
  | ok l =>
    simp only [Except.ok.injEq, exists_eq_left']
    cases hg : t.get? l with
    | none => simp [throw, throwThe, MonadExceptOf.throw]
    | some e => cases e <;> simp [throw, throwThe, MonadExceptOf.throw, pure, Except.pure]

/-- A file that is opened to be read has a path by which it can be opened. -/
theorem load_eq_ok : t.load p = .ok bytes ↔ permit p = .ok () ∧ t.read p = .ok bytes := by
  simp only [load, bind, Except.bind]
  cases permit p <;> simp

theorem read_of_load (h : t.load p = .ok bytes) : t.read p = .ok bytes := (load_eq_ok.1 h).2

theorem hasFile_eq_true : t.hasFile p = true ↔
    ∃ l bytes, t.locate p = .ok l ∧ t.get? l = some (.file bytes) := by
  simp only [hasFile, find?]
  cases hl : t.locate p with
  | error f => simp
  | ok l =>
    simp only [Except.ok.injEq, ↓existsAndEq, true_and]
    cases hg : t.get? l with
    | none => simp
    | some e => cases e <;> simp

/-- Where a path leads decides what is read there. -/
theorem read_congr (hl : t.locate p = .ok l) (hl' : t'.locate p = .ok l)
    (hget : t'.get? l = t.get? l) : t'.read p = t.read p := by
  simp [read, hl, hl', hget, bind, Except.bind]

/-! ## Trees that keep another -/

/-- Every directory is still a directory, and every file still a file. -/
structure Keeps (t t' : Tree) : Prop where
  /-- The working directory is the same. -/
  here : t'.here = t.here
  /-- Directories stay. -/
  directory : ∀ l, t.get? l = some .directory → t'.get? l = some .directory
  /-- Files stay files. -/
  file : ∀ l bytes, t.get? l = some (.file bytes) → ∃ bytes', t'.get? l = some (.file bytes')

namespace Keeps

theorem refl (t : Tree) : t.Keeps t := ⟨rfl, fun _ h => h, fun _ bytes h => ⟨bytes, h⟩⟩

theorem trans {t'' : Tree} (h : t.Keeps t') (h' : t'.Keeps t'') : t.Keeps t'' where
  here := h'.here.trans h.here
  directory l hl := h'.directory l (h.directory l hl)
  file l bytes hl :=
    let ⟨bytes', hl'⟩ := h.file l bytes hl
    h'.file l bytes' hl'

theorem isSome (h : t.Keeps t') (hl : (t.get? l).isSome) : (t'.get? l).isSome := by
  obtain ⟨e, he⟩ := Option.isSome_iff_exists.1 hl
  cases e with
  | file bytes =>
    obtain ⟨bytes', h'⟩ := h.file l bytes he
    simp [h']
  | directory => simp [h.directory l he]

theorem enters {piece : List UInt8} (h : t.Keeps t') (hm : Enters t l piece (.ok m)) :
    Enters t' l piece (.ok m) := by
  cases hm with
  | idle hdir hidle => exact .idle (h.directory l hdir) hidle
  | up hdir hidle hup => exact .up (h.directory l hdir) hidle hup
  | name hdir hidle hup hlen hsome =>
    exact .name (h.directory l hdir) hidle hup hlen (h.isSome hsome)

theorem walk (h : t.Keeps t') {ps : List (List UInt8)} (hw : t.walk l ps = .ok m) :
    t'.walk l ps = .ok m := by
  induction ps generalizing l with
  | nil => exact hw
  | cons piece rest ih =>
    obtain ⟨k, hk, hrest⟩ := walk_cons_eq_ok.1 hw
    exact walk_cons_eq_ok.2 ⟨k, h.enters hk, ih hrest⟩

theorem start (h : t.Keeps t') (p : Path) : t'.start p = t.start p := by
  simp [Tree.start, origin, h.here]

/-- A path that resolves keeps its meaning. -/
theorem locate (h : t.Keeps t') (hl : t.locate p = .ok l) : t'.locate p = .ok l := by
  have hs := start_of_locate hl
  rw [locate_eq hs] at hl
  rw [locate_eq ((h.start p).trans hs)]
  exact h.walk hl

/-- The path of a new file resolves once the file exists. -/
theorem locate_of_locateNew (h : t.Keeps t') (hl : t.locateNew p = .ok l)
    (hdir : t.get? l ≠ some .directory) (hsome : (t'.get? l).isSome) : t'.locate p = .ok l := by
  obtain ⟨d, last, hlead, rfl⟩ := leadsInto_of_locateNew hl hdir
  obtain ⟨init, hs, hd⟩ := hlead.cut
  rw [locate_eq ((h.start p).trans hs), walk_append, h.walk hd]
  simp [Except.bind, Tree.walk, h.directory d hlead.directory, hlead.idle, hlead.up,
    Nat.not_lt.2 hlead.short, hsome]

/-- A path that resolves keeps its absolute form. -/
theorem canonical? (h : t.Keeps t') (hl : t.locate p = .ok l) :
    t'.canonical? p = t.canonical? p := by
  simp [Tree.canonical?, hl, h.locate hl]

/-- A path that names something goes on to do so. -/
theorem has (h : t.Keeps t') (hp : t.has p = true) : t'.has p = true := by
  simp only [Tree.has, Tree.find?] at hp ⊢
  cases hl : t.locate p with
  | error f => simp [hl] at hp
  | ok l =>
    rw [hl] at hp
    rw [h.locate hl]
    exact h.isSome hp

/-- A path of a file stays one. -/
theorem hasFile (h : t.Keeps t') (hp : t.hasFile p = true) : t'.hasFile p = true := by
  obtain ⟨l, bytes, hl, hfile⟩ := hasFile_eq_true.1 hp
  obtain ⟨bytes', hfile'⟩ := h.file l bytes hfile
  exact hasFile_eq_true.2 ⟨l, bytes', h.locate hl, hfile'⟩

end Keeps

/-- A file put where no directory stands keeps the tree. -/
theorem keeps_put_file (h : t.fits l (.file bytes) = true) : t.Keeps (t.put l (.file bytes)) where
  here := here_put t l _
  directory m hm := by
    have hne : m ≠ l := by
      rintro rfl
      simp [fits, hm] at h
    rw [get?_put h, if_neg hne, hm]
  file m old hm := by
    rw [get?_put h]
    split
    · exact ⟨bytes, rfl⟩
    · exact ⟨old, hm⟩

/-! ## Paths of what a directory holds -/

/-- What a name does not hold. -/
theorem isName_iff : isName n = true ↔
    Path.isIdle n.bytes = false ∧ n.bytes ≠ [dot, dot] ∧ slash ∉ n.bytes ∧ 0 ∉ n.bytes
      ∧ n.bytes.length ≤ nameLimit := by
  simp [isName, and_assoc]

/-- The text of a child is the path, a separator unless there is one, and the name. -/
theorem bytes_child (hp : p.text.bytes ≠ []) (hn : isName n = true) :
    (p.child n).text.bytes = p.text.bytes ++ slash :: n.bytes
      ∨ ∃ a, p.text.bytes = a ++ [slash] ∧ (p.child n).text.bytes = a ++ slash :: n.bytes := by
  obtain ⟨-, -, hslash, -, -⟩ := isName_iff.1 hn
  have habs : Path.isAbsolute ⟨n⟩ = false := by
    cases hl : n.bytes with
    | nil => simp [Path.isAbsolute, hl]
    | cons c r =>
      have hc : c ≠ slash := fun hc => hslash (by simp [hl, hc])
      simp [Path.isAbsolute, hl, hc]
  by_cases hlast : p.text.bytes.getLast? = some slash
  · obtain ⟨a, ha⟩ := List.getLast?_eq_some_iff.1 hlast
    exact .inr ⟨a, ha, by simp [Path.child, Path.join, habs, ha]⟩
  · exact .inl (by simp [Path.child, Path.join, habs, hp, hlast])

/-- A walk does not stop at a separator at its end. -/
theorem walk_idle_end {ps : List (List UInt8)} (h : t.walk l (ps ++ [[]]) = .ok m) :
    t.walk l ps = .ok m := by
  rw [walk_append] at h
  cases hps : t.walk l ps with
  | error f => rw [hps] at h; cases h
  | ok k =>
    rw [hps] at h
    have hentered : Enters t k [] (.ok m) := h ▸ enters t k []
    cases hentered with
    | idle => rfl
    | up _ hidle => cases hidle
    | name _ hidle => cases hidle

theorem start_child (hs : t.start p = .ok (t.origin p, Text.pieces slash p.text.bytes))
    (hn : isName n = true) :
    t.start (p.child n) = .ok (t.origin p, Text.pieces slash (p.child n).text.bytes) := by
  have hp : p.text.bytes ≠ [] := by
    intro hp
    simp [start, hp] at hs
  have hnul := (start_eq_ok hs).2
  obtain ⟨-, -, -, hzero, -⟩ := isName_iff.1 hn
  have horigin : t.origin (p.child n) = t.origin p := by
    have habs : (p.child n).isAbsolute = p.isAbsolute := by
      rcases bytes_child hp hn with h | ⟨a, ha, h⟩
      · cases hl : p.text.bytes with
        | nil => exact absurd hl hp
        | cons c r => simp [Path.isAbsolute, h, hl]
      · cases a <;> simp [Path.isAbsolute, h, ha]
    simp [origin, habs]
  have hchild : (p.child n).text.bytes ≠ [] ∧ 0 ∉ (p.child n).text.bytes := by
    rcases bytes_child hp hn with h | ⟨a, ha, h⟩
    · exact ⟨fun he => by simp [he] at h, by simp [h, hnul, hzero]⟩
    · have hnula : 0 ∉ a := fun hmem => hnul (by simp [ha, hmem])
      exact ⟨fun he => by simp [he] at h, by simp [h, hnula, hzero]⟩
  simp [start, hchild, horigin]

/-- The path of a child leads on from where the path leads. -/
theorem locate_child_eq (h : t.locate p = .ok l) (hn : isName n = true) :
    t.locate (p.child n) = t.walk l [n.bytes] := by
  have hs := start_of_locate h
  have hp : p.text.bytes ≠ [] := by
    intro hp
    simp [start, hp] at hs
  have hslash := (isName_iff.1 hn).2.2.1
  rw [locate_eq hs] at h
  rw [locate_eq (start_child hs hn)]
  rcases bytes_child hp hn with heq | ⟨a, ha, heq⟩
  · rw [heq, Text.pieces_append_cons, Text.pieces_of_not_mem hslash, walk_append, h]
    rfl
  · rw [ha, Text.pieces_append_cons] at h
    rw [heq, Text.pieces_append_cons, Text.pieces_of_not_mem hslash, walk_append,
      walk_idle_end h]
    rfl

/-- The path of a child leads to the child. -/
theorem locate_child (h : t.locate p = .ok l) (hdir : t.get? l = some .directory)
    (hn : isName n = true) (hsome : (t.get? (l ++ [n])).isSome) :
    t.locate (p.child n) = .ok (l ++ [n]) := by
  obtain ⟨hidle, hup, -, -, hlen⟩ := isName_iff.1 hn
  have hentered : Enters t l n.bytes (.ok (l ++ [n])) :=
    .name hdir hidle hup hlen hsome
  rw [locate_child_eq h hn, hentered.walk_eq]

/-- The path of a child names something exactly if the child exists. -/
theorem has_child (h : t.locate p = .ok l) (hn : isName n = true) :
    t.has (p.child n) = (t.get? (l ++ [n])).isSome := by
  by_cases hsome : (t.get? (l ++ [n])).isSome = true
  · obtain ⟨e, he⟩ := Option.isSome_iff_exists.1 hsome
    rw [has, find?, locate_child h (get?_parent he).2 hn hsome]
  · obtain ⟨hidle, hup, -, -, hlen⟩ := isName_iff.1 hn
    have hfault : ∃ f, t.locate (p.child n) = .error f := by
      rw [locate_child_eq h hn, walk]
      split
      · exact ⟨_, rfl⟩
      · exact ⟨_, rfl⟩
      · simp [hidle, hup, Nat.not_lt.2 hlen, hsome]
    obtain ⟨f, hf⟩ := hfault
    rw [has, find?, hf]
    simpa using hsome

/-- The path along names below a directory leads to what stands there. -/
theorem locate_foldl_child {ns : List RawText} (h : t.locate p = .ok l)
    (hdir : t.get? l = some .directory) (hsome : t.get? (l ++ ns) = some e) :
    t.locate (ns.foldl Path.child p) = .ok (l ++ ns) := by
  induction ns generalizing p l with
  | nil => simpa using h
  | cons n r ih =>
    obtain ⟨hn, x, hx, hxdir⟩ := get?_append_cons hsome
    have hchild : t.locate (p.child n) = .ok (l ++ [n]) :=
      locate_child h hdir hn (by simp [hx])
    cases r with
    | nil => exact hchild
    | cons k r =>
      have hstep : l ++ n :: k :: r = (l ++ [n]) ++ (k :: r) := by simp
      rw [hstep] at hsome ⊢
      exact ih hchild (hxdir (by simp) ▸ hx) hsome

end SourceMend.Tree
