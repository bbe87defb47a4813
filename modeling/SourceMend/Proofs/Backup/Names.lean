import SourceMend.Backup
import SourceMend.Proofs.Text.Numeral
import SourceMend.Proofs.Text.Raw
import SourceMend.Proofs.Tree.FileName

/-!
# The names that are tried for a backup

What is added to the name of a file (`tag`) is different in every attempt, and holds no
separator.  So if the first path is a name in an existing directory (`Tree.NameIn`), all of
them are different names in that directory (`nameIn_candidate`).  A file can be created
by such a path unless it is too long or the name is too long or in use (`Tree.NameIn.create`).
-/

namespace SourceMend

open RawText (slash dot)

/-! ## A name in a directory -/

/-- That no file can be created by a path that ends with a name, since the name or the path is too
long. -/
def Tree.TooLong (p : Path) (last : List UInt8) : Prop :=
  nameLimit < last.length ∨ pathLimit ≤ p.text.bytes.length

instance (p : Path) (last : List UInt8) : Decidable (Tree.TooLong p last) :=
  inferInstanceAs (Decidable (_ ∨ _))

namespace Tree.NameIn

variable {t t' : Tree} {p : Path} {d : Location} {last : List UInt8} {v : RawText}
  {bytes : ByteArray}

theorem keeps (h : t.NameIn p d last) (hkeeps : t.Keeps t') : t'.NameIn p d last where
  cut := by
    obtain ⟨init, hs, hd⟩ := h.cut
    have horigin : t'.origin p = t.origin p := by simp [origin, hkeeps.here]
    exact ⟨init, by rw [hkeeps.start, horigin, hs], by rw [horigin, hkeeps.walk hd]⟩
  directory := hkeeps.directory d h.directory
  idle := h.idle
  up := h.up

/-- What exists under the name shows that it is not too long. -/
theorem short_of_isSome (hsome : (t.get? (d ++ [⟨last⟩])).isSome) : ¬nameLimit < last.length := by
  obtain ⟨e, he⟩ := Option.isSome_iff_exists.1 hsome
  exact Nat.not_lt.2 (isName_iff.1 (get?_parent he).1).2.2.2.2

/-- The path resolves when something stands under the name. -/
theorem has_eq (h : t.NameIn p d last) : t.has p = (t.get? (d ++ [⟨last⟩])).isSome := by
  obtain ⟨init, hs, hd⟩ := h.cut
  have hlast : t.locate p = t.walk d [last] := by
    rw [locate_eq hs, walk_append, hd]
    rfl
  simp only [has, find?, hlast, walk, h.directory, h.idle, h.up, Bool.false_eq_true, if_false]
  cases hsome : (t.get? (d ++ [⟨last⟩])).isSome with
  | true => simp [short_of_isSome hsome, hsome]
  | false => by_cases hlong : nameLimit < last.length <;> simp [hlong]

/-- A file is created by the path, unless something is too long or the name is in use. -/
theorem create (h : t.NameIn p d last) : t.create p bytes
    = if TooLong p last then .error .nameTooLong
      else if t.has p then .error .occupied
      else .ok (t.put (d ++ [⟨last⟩]) (.file bytes)) := by
  obtain ⟨init, hs, -⟩ := h.cut
  have hzero : p.text.bytes.contains 0 = false := by simpa using (start_eq_ok hs).2
  simp only [Tree.create, permit, hzero, h.locateNew, h.has_eq, TooLong, bind, Except.bind]
  by_cases hpath : pathLimit ≤ p.text.bytes.length
  · simp [hpath]
  · by_cases hname : nameLimit < last.length
    · simp [hpath, hname]
    · simp only [hpath, hname, if_false, or_self]
      rfl

/-- A name is in use when a file cannot be created for that reason. -/
theorem create_eq_occupied_iff (h : t.NameIn p d last) :
    t.create p bytes = .error .occupied ↔ t.has p = true ∧ ¬TooLong p last := by
  rw [h.create]
  by_cases hlong : TooLong p last
  · simp [hlong]
  · cases hhas : t.has p <;> simp [hlong]

/-- More bytes after the name make another name in the same directory. -/
theorem extend (h : t.NameIn p d last) (hslash : slash ∉ v.bytes) (hnul : 0 ∉ v.bytes) :
    t.NameIn (p.extend v) d (last ++ v.bytes) := by
  obtain ⟨init, hs, hd⟩ := h.cut
  obtain ⟨heq, hzero⟩ := start_eq_ok hs
  have htext : (p.extend v).text.bytes = p.text.bytes ++ v.bytes := rfl
  have hp : p.text.bytes ≠ [] := fun hp => by simp [start, hp] at hs
  have habs : (p.extend v).isAbsolute = p.isAbsolute := by
    simp only [Path.isAbsolute, htext, List.head?_append_of_ne_nil _ hp]
  have horigin : t.origin (p.extend v) = t.origin p := by simp only [origin, habs]
  have hpieces : Text.pieces slash (p.text.bytes ++ v.bytes) = init ++ [last ++ v.bytes] :=
    Text.pieces_append_of_not_mem (Prod.mk.inj heq).2.symm hslash
  obtain ⟨hne, hdot⟩ := Path.isIdle_eq_false_iff.1 h.idle
  constructor
  case cut =>
    refine ⟨init, ?_, horigin ▸ hd⟩
    simp [start, htext, hp, hzero, hnul, hpieces, horigin]
  case directory => exact h.directory
  case idle => simp [Path.isIdle_eq_false_iff, List.append_eq_singleton_iff, hne, hdot]
  case up =>
    intro heq
    rcases List.append_eq_cons_iff.1 heq with ⟨hnil, -⟩ | ⟨rest, rfl, hrest⟩
    · exact hne hnil
    · rcases List.append_eq_singleton_iff.1 hrest.symm with ⟨rfl, -⟩ | ⟨rfl, -⟩
      · exact hdot rfl
      · exact h.up rfl

end Tree.NameIn

/-- A name is one in the working directory. -/
theorem Tree.nameIn_name {t : Tree} {n : RawText} (hdir : t.get? t.here = some .directory)
    (hidle : Path.isIdle n.bytes = false) (hup : n.bytes ≠ [dot, dot]) (hslash : slash ∉ n.bytes)
    (hnul : 0 ∉ n.bytes) : t.NameIn ⟨n⟩ t.here n.bytes := by
  have habs : (⟨n⟩ : Path).isAbsolute = false := by
    rw [Path.isAbsolute, beq_eq_false_iff_ne]
    exact fun h => hslash (List.mem_of_mem_head? h)
  have hempty : n.bytes ≠ [] := (Path.isIdle_eq_false_iff.1 hidle).1
  refine ⟨⟨[], ?_, ?_⟩, hdir, hidle, hup⟩
  · simp [start, hempty, hnul, Text.pieces_of_not_mem hslash]
  · simp [origin, habs, walk]

/-! ## Names in succession -/

namespace Backup

variable {t : Tree} {base : Path} {d : Location} {last : List UInt8}

/-- What is added to the name of a backup in the `n`th attempt. -/
def tag (n : Nat) : RawText := if n = 0 then .empty else .ofString ("." ++ toString n)

/-- The name that is tried in the `n`th attempt. -/
def nameFor (last : List UInt8) (n : Nat) : List UInt8 := last ++ (tag n).bytes

theorem toList_dot_numeral (n : Nat) : ("." ++ toString n).toList = '.' :: Text.ofNat n := by
  simp [Text.ofNat]

theorem tag_injective : Function.Injective tag := by
  have hne (n : Nat) : RawText.empty ≠ .ofString ("." ++ toString n) := by
    intro h
    have hempty : RawText.ofString "" = .ofString ("." ++ toString n) := h
    have hdot := RawText.ofString_injective hempty
    rw [← String.toList_inj, toList_dot_numeral] at hdot
    cases hdot
  intro m n h
  unfold tag at h
  split at h <;> split at h
  · simp_all
  · exact absurd h (hne n)
  · exact absurd h.symm (hne m)
  · have hdots := congrArg String.toList (RawText.ofString_injective h)
    rw [toList_dot_numeral, toList_dot_numeral] at hdots
    exact Text.ofNat_injective (List.cons.inj hdots).2

theorem nameFor_injective (last : List UInt8) : Function.Injective (nameFor last) := fun _ _ h =>
  tag_injective (RawText.ext (List.append_cancel_left h))

theorem candidate_eq (base : Path) (n : Nat) : candidate base n = base.extend (tag n) := by
  unfold candidate tag
  split
  · exact Path.ext (RawText.ext (List.append_nil _).symm)
  · rfl

/-- All paths that are tried are names in the directory of the first one. -/
theorem nameIn_candidate (h : t.NameIn base d last) (n : Nat) :
    t.NameIn (candidate base n) d (nameFor last n) := by
  by_cases hn : n = 0
  · simpa [candidate, nameFor, tag, RawText.empty, hn] using h
  · have htag : tag n = .ofString ("." ++ toString n) := if_neg hn
    rw [candidate_eq, nameFor, htag]
    refine h.extend ?_ ?_
    · rw [RawText.slash_mem_ofString_iff, toList_dot_numeral]
      simp [Text.not_mem_ofNat n (c := '/') (by decide)]
    · rw [RawText.zero_mem_ofString_iff, toList_dot_numeral]
      simp [Text.not_mem_ofNat n (c := '\x00') (by decide)]

/-- Where the `n`th path that is tried leads. -/
def spot (d : Location) (last : List UInt8) (n : Nat) : Location := d ++ [⟨nameFor last n⟩]

theorem spot_injective (d : Location) (last : List UInt8) : Function.Injective (spot d last) :=
  fun _ _ h => nameFor_injective last
    (congrArg RawText.bytes (List.singleton_inj.1 (List.append_cancel_left h)))

theorem has_candidate (h : t.NameIn base d last) (n : Nat) :
    t.has (candidate base n) = (t.get? (spot d last n)).isSome :=
  (nameIn_candidate h n).has_eq

/-- The `n`th backup is made, unless its name or its path is too long or the name is in use. -/
theorem create_candidate (h : t.NameIn base d last) (n : Nat) {bytes : ByteArray} :
    t.create (candidate base n) bytes
      = if Tree.TooLong (candidate base n) (nameFor last n) then .error .nameTooLong
        else if t.has (candidate base n) then .error .occupied
        else .ok (t.put (spot d last n) (.file bytes)) :=
  (nameIn_candidate h n).create

theorem locateNew_candidate (h : t.NameIn base d last) {n : Nat}
    (hshort : ¬Tree.TooLong (candidate base n) (nameFor last n)) :
    t.locateNew (candidate base n) = .ok (spot d last n) := by
  rw [(nameIn_candidate h n).locateNew]
  exact if_neg fun hlong => hshort (.inl hlong)

end Backup
end SourceMend
