import SourceMend.Proofs.Text.Pieces
import SourceMend.Proofs.Tree.Store

/-!
# Walking along a path

A path is resolved piece by piece (`walk_cons_eq_ok`, `walk_cons_eq_error`), and `Enters` says what
comes of one piece.  What is resolved exists (`isSome_of_locate`), and without a working directory
no relative path is (`has_of_not_isAbsolute`).
-/

namespace SourceMend.Tree

open RawText (slash dot)

variable {t : Tree} {p : Path} {l m d : Location} {bytes : ByteArray}

/-! ## Where a path starts -/

theorem start_eq_ok {x : Location × List (List UInt8)} (h : t.start p = .ok x) :
    x = (t.origin p, Text.pieces slash p.text.bytes) ∧ 0 ∉ p.text.bytes := by
  simp only [start] at h
  split at h
  · cases h
  · split at h
    · cases h
    · next hnul =>
      cases h
      exact ⟨rfl, by simpa using hnul⟩

theorem locate_eq {pieces : List (List UInt8)} (h : t.start p = .ok (l, pieces)) :
    t.locate p = t.walk l pieces := by
  simp [locate, h, bind, Except.bind]

/-! ## Pieces -/

/-- What comes of one piece of a path at a location. -/
inductive Enters (t : Tree) (l : Location) (piece : List UInt8) : Except Fault Location → Prop where
  /-- There is nothing to go on from. -/
  | missing : t.get? l = none → Enters t l piece (.error .notFound)
  /-- A file leads nowhere. -/
  | file {bytes : ByteArray} : t.get? l = some (.file bytes) →
      Enters t l piece (.error .notDirectory)
  /-- An idle piece stays in the directory. -/
  | idle : t.get? l = some .directory → Path.isIdle piece = true → Enters t l piece (.ok l)
  /-- Two dots lead to the parent. -/
  | up : t.get? l = some .directory → Path.isIdle piece = false → piece = [dot, dot] →
      Enters t l piece (.ok l.dropLast)
  /-- The name is too long. -/
  | tooLong : t.get? l = some .directory → Path.isIdle piece = false → piece ≠ [dot, dot] →
      nameLimit < piece.length → Enters t l piece (.error .nameTooLong)
  /-- The name leads to an entry of the directory. -/
  | name : t.get? l = some .directory → Path.isIdle piece = false → piece ≠ [dot, dot] →
      piece.length ≤ nameLimit →
      (t.get? (l ++ [RawText.mk piece])).isSome →
      Enters t l piece (.ok (l ++ [RawText.mk piece]))
  /-- The directory has no such entry. -/
  | absent : t.get? l = some .directory → Path.isIdle piece = false → piece ≠ [dot, dot] →
      piece.length ≤ nameLimit → t.get? (l ++ [RawText.mk piece]) = none →
      Enters t l piece (.error .notFound)

section Walking

variable {piece : List UInt8} {ps rest : List (List UInt8)} {r : Except Fault Location}

theorem enters (t : Tree) (l : Location) (piece : List UInt8) :
    Enters t l piece (t.walk l [piece]) := by
  simp only [walk]
  split
  · next h => exact .missing h
  · next h => exact .file h
  · next hdir =>
    split
    · next hidle => exact .idle hdir hidle
    · next hidle =>
      rw [Bool.not_eq_true] at hidle
      split
      · next hup => exact .up hdir hidle hup
      · next hup =>
        split
        · next hlen => exact .tooLong hdir hidle hup hlen
        · next hlen =>
          rw [Nat.not_lt] at hlen
          split
          · next hsome => exact .name hdir hidle hup hlen hsome
          · next hnone => exact .absent hdir hidle hup hlen (by simpa using hnone)

theorem Enters.walk_eq (h : Enters t l piece r) : t.walk l [piece] = r := by
  cases h with
  | missing h => simp [walk, h]
  | file h => simp [walk, h]
  | idle hdir hidle => simp [walk, hdir, hidle]
  | up hdir hidle hup => simp [walk, hdir, hup ▸ hidle, hup]
  | tooLong hdir hidle hup hlen => simp [walk, hdir, hidle, hup, hlen]
  | name hdir hidle hup hlen hsome => simp [walk, hdir, hidle, hup, Nat.not_lt.2 hlen, hsome]
  | absent hdir hidle hup hlen hnone => simp [walk, hdir, hidle, hup, Nat.not_lt.2 hlen, hnone]

/-- A piece leads on from a directory. -/
theorem Enters.directory (h : Enters t l piece (.ok m)) : t.get? l = some .directory := by
  cases h <;> assumption

/-- A piece leads to what exists. -/
theorem Enters.isSome (h : Enters t l piece (.ok m)) : (t.get? m).isSome := by
  cases h with
  | idle hdir => simp [hdir]
  | up hdir => simp [get?_dropLast hdir]
  | name _ _ _ _ hsome => exact hsome

/-- A walk goes through the place where its pieces are cut. -/
theorem walk_append (t : Tree) (l : Location) (ps qs : List (List UInt8)) :
    t.walk l (ps ++ qs) = (t.walk l ps).bind fun m => t.walk m qs := by
  induction ps generalizing l with
  | nil => rfl
  | cons piece rest ih =>
    simp only [List.cons_append, walk]
    repeat' split
    all_goals first | rfl | exact ih _

theorem walk_cons (t : Tree) (l : Location) (piece : List UInt8) (rest : List (List UInt8)) :
    t.walk l (piece :: rest) = (t.walk l [piece]).bind fun m => t.walk m rest :=
  walk_append t l [piece] rest

/-- A walk resolves piece by piece. -/
theorem walk_cons_eq_ok : t.walk l (piece :: rest) = .ok m
    ↔ ∃ k, Enters t l piece (.ok k) ∧ t.walk k rest = .ok m := by
  constructor
  · intro h
    rw [walk_cons] at h
    cases hk : t.walk l [piece] with
    | error f => rw [hk] at h; cases h
    | ok k =>
      rw [hk] at h
      exact ⟨k, hk ▸ enters t l piece, h⟩
  · rintro ⟨k, hk, h⟩
    rw [walk_cons, hk.walk_eq]
    exact h

/-- A walk fails at the first piece that leads nowhere. -/
theorem walk_cons_eq_error {f : Fault} : t.walk l (piece :: rest) = .error f
    ↔ Enters t l piece (.error f)
      ∨ ∃ k, Enters t l piece (.ok k) ∧ t.walk k rest = .error f := by
  constructor
  · intro h
    rw [walk_cons] at h
    cases hk : t.walk l [piece] with
    | error f' =>
      rw [hk] at h
      cases h
      exact .inl (hk ▸ enters t l piece)
    | ok k =>
      rw [hk] at h
      exact .inr ⟨k, hk ▸ enters t l piece, h⟩
  · rintro (hf | ⟨k, hk, h⟩)
    · rw [walk_cons, hf.walk_eq]
      rfl
    · rw [walk_cons, hk.walk_eq]
      exact h

/-- A walk of at least one piece leads to what exists. -/
theorem isSome_of_walk (hne : ps ≠ []) (h : t.walk l ps = .ok m) : (t.get? m).isSome := by
  induction ps generalizing l with
  | nil => exact absurd rfl hne
  | cons piece rest ih =>
    obtain ⟨k, hk, hrest⟩ := walk_cons_eq_ok.1 h
    cases rest with
    | nil => exact Except.ok.inj hrest ▸ hk.isSome
    | cons _ _ => exact ih (List.cons_ne_nil _ _) hrest

/-- Where a walk of one piece ends at a file, the piece is the name of the file. -/
theorem walk_singleton_file (h : t.walk d [piece] = .ok l)
    (hfile : t.get? l = some (.file bytes)) :
    Path.isIdle piece = false ∧ piece ≠ [dot, dot] ∧ l = d ++ [RawText.mk piece]
      ∧ t.get? d = some .directory ∧ piece.length ≤ nameLimit := by
  have hentered : Enters t d piece (.ok l) := h ▸ enters t d piece
  cases hentered with
  | idle hdir => cases hdir.symm.trans hfile
  | up hdir => cases (get?_dropLast hdir).symm.trans hfile
  | name hdir hidle hup hlen => exact ⟨hidle, hup, rfl, hdir, hlen⟩

end Walking

/-- A path that resolves has a start. -/
theorem start_of_locate (h : t.locate p = .ok l) :
    t.start p = .ok (t.origin p, Text.pieces slash p.text.bytes) := by
  simp only [locate, bind, Except.bind] at h
  cases hs : t.start p with
  | error f => rw [hs] at h; cases h
  | ok x => rw [(start_eq_ok hs).1]

/-- A path that resolves leads to what exists. -/
theorem isSome_of_locate (h : t.locate p = .ok l) : (t.get? l).isSome := by
  rw [locate_eq (start_of_locate h)] at h
  exact isSome_of_walk (Text.pieces_ne_nil _ _) h

/-- Where there is no working directory, a relative path names nothing. -/
theorem has_of_not_isAbsolute (hhere : t.get? t.here ≠ some .directory)
    (hp : p.isAbsolute = false) : t.has p = false := by
  cases hl : t.locate p with
  | error f => simp [has, find?, hl]
  | ok l =>
    have horigin : t.origin p = t.here := if_neg (by simp [hp])
    obtain ⟨piece, rest, hpieces⟩ :=
      List.exists_cons_of_ne_nil (Text.pieces_ne_nil slash p.text.bytes)
    rw [locate_eq (start_of_locate hl), hpieces, horigin] at hl
    obtain ⟨m, hm, -⟩ := walk_cons_eq_ok.1 hl
    exact absurd hm.directory hhere

end SourceMend.Tree
