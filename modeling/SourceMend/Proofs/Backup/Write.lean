import SourceMend.Proofs.Backup.Names
import SourceMend.Proofs.Tree.Replacement
import SourceMend.Run

/-!
# Backups get names that are free

A backup is made where nothing stood, and nothing else changes (`Tree.creates_of_create`).
Names in an existing directory are refused only because they are in use, or because they or their
paths are too long (`write_eq_error_iff_of_nameIn`).  So backups that are made one after another
take the names in their order, and each keeps its content (`writeEach_of_free`).
-/

namespace SourceMend

/-! ## Names in use -/

namespace Tree

variable {t t' : Tree} {p : Path} {l : Location} {f : Fault} {bytes : ByteArray}

theorem walk_ne_occupied {ps : List (List UInt8)} : t.walk l ps ≠ .error .occupied := by
  induction ps generalizing l with
  | nil => exact nofun
  | cons piece rest ih =>
    intro h
    rcases walk_cons_eq_error.1 h with he | ⟨_, _, hrest⟩
    · cases he
    · exact ih hrest

theorem entryAt_ne_occupied {last : List UInt8} {asDirectory : Bool} :
    t.entryAt l last asDirectory ≠ .error .occupied := by
  unfold entryAt
  repeat' split
  all_goals exact nofun

theorem locateNew_ne_occupied : t.locateNew p ≠ .error .occupied := by
  intro h
  simp only [locateNew, bind, Except.bind] at h
  split at h
  · next hs =>
    cases h
    simp only [start] at hs
    repeat' split at hs
    all_goals cases hs
  · split at h
    · exact walk_ne_occupied h
    · split at h
      · exact walk_ne_occupied h
      · split at h
        · next hw =>
          cases h
          exact walk_ne_occupied hw
        · exact entryAt_ne_occupied h

/-- A path where a new file would go resolves when something stands there. -/
theorem has_eq_of_locateNew (h : t.locateNew p = .ok l) : t.has p = (t.get? l).isSome := by
  rcases leadsInto_or_of_locateNew h with ⟨d, last, hlead, rfl⟩ | ⟨hl, -⟩
  · exact hlead.toNameIn.has_eq
  · simp only [has, find?, hl]

/-- A file is not created because the name is in use only if something stands there. -/
theorem has_of_create_occupied (h : t.create p bytes = .error .occupied) : t.has p = true := by
  simp only [create, bind, Except.bind] at h
  split at h
  · next hpermit =>
    cases h
    simp only [permit] at hpermit
    repeat' split at hpermit
    all_goals cases hpermit
  · split at h
    · next hl =>
      cases h
      exact absurd hl locateNew_ne_occupied
    · next l hl =>
      split at h
      · next hsome => rw [has_eq_of_locateNew hl, hsome]
      · cases h

/-- A file is created where nothing stood, and nothing else changes. -/
structure Creates (t : Tree) (p : Path) (bytes : ByteArray) (t' : Tree) : Prop where
  free : t.has p = false
  read : t'.read p = .ok bytes
  keeps : t.Keeps t'
  rest : ∃ l, t'.locate p = .ok l ∧ ∀ m, m ≠ l → t'.get? m = t.get? m

theorem creates_of_create (h : t.create p bytes = .ok t') : t.Creates p bytes t' := by
  obtain ⟨-, l, hl, hfree, rfl⟩ := create_eq_ok h
  have hfits : t.fits l (.file bytes) = true := fits_of_locateNew hl (by simp [hfree])
  have hkeeps := keeps_put_file hfits
  have hget : (t.put l (.file bytes)).get? l = some (.file bytes) := by simp [get?_put hfits]
  have hlocate := hkeeps.locate_of_locateNew hl (by simp [hfree]) (by simp [hget])
  exact ⟨by rw [has_eq_of_locateNew hl, hfree]; rfl, read_eq_ok.2 ⟨l, hlocate, hget⟩, hkeeps, l,
    hlocate, fun m hm => by rw [get?_put hfits, if_neg hm]⟩

end Tree

namespace Backup

variable {t t' : Tree} {file : Path} {bytes : ByteArray} {naming : Naming} {f : Fault}
  {d : Location} {last : List UInt8}

/-! ## Backups in succession -/

/-- The copies that are made of some contents, one after another, and the tree that holds them. -/
def writeEach (t : Tree) (file : Path) (naming : Naming) :
    List ByteArray → Except Fault (List Path × Tree)
  | [] => return ([], t)
  | bytes :: rest => do
    let (b, t') ← write t file bytes naming
    let (copies, t'') ← writeEach t' file naming rest
    return (b.copy :: copies, t'')

theorem writeEach_concat (contents : List ByteArray) (bytes : ByteArray) :
    writeEach t file naming (contents ++ [bytes]) = do
      let (copies, t') ← writeEach t file naming contents
      let (b, t'') ← write t' file bytes naming
      return (copies ++ [b.copy], t'') := by
  induction contents generalizing t with
  | nil => simp only [List.nil_append, writeEach, pure_bind]
  | cons first rest ih =>
    simp only [List.cons_append, writeEach, ih, bind_assoc, pure_bind]

/-- The next backup takes the next name, if that is free and nothing so far is too long. -/
theorem write_of_free (bytes : ByteArray) (h : t.NameIn (naming.pathFor file) d last) {n : Nat}
    (hn : n < attempts)
    (hused : ∀ k < n, t.has (candidate (naming.pathFor file) k) = true)
    (hfree : t.has (candidate (naming.pathFor file) n) = false)
    (hshort : ∀ k ≤ n, ¬Tree.TooLong (candidate (naming.pathFor file) k) (nameFor last k)) :
    t.fits (spot d last n) (.file bytes) = true
      ∧ write t file bytes naming
        = .ok (⟨file, candidate (naming.pathFor file) n⟩, t.put (spot d last n) (.file bytes)) := by
  have hcreate : t.create (candidate (naming.pathFor file) n) bytes
      = .ok (t.put (spot d last n) (.file bytes)) := by
    simp [create_candidate h, hshort n le_rfl, hfree]
  have hwrite : write t file bytes naming
      = .ok (⟨file, candidate (naming.pathFor file) n⟩, t.put (spot d last n) (.file bytes)) :=
    write_eq_ok_iff.2 ⟨rfl, n, hn, rfl, hcreate,
      fun k hk => (nameIn_candidate h k).create_eq_occupied_iff.2 ⟨hused k hk, hshort k hk.le⟩⟩
  rw [has_candidate h, Option.isSome_eq_false_iff, Option.isNone_iff_eq_none] at hfree
  exact ⟨Tree.fits_of_locateNew (locateNew_candidate h (hshort n le_rfl)) (by simp [hfree]),
    hwrite⟩

/-- Backups take free names in their order, and nothing else changes. -/
theorem writeEach_of_free (h : t.NameIn (naming.pathFor file) d last) {contents : List ByteArray}
    (hmany : contents.length ≤ attempts)
    (hfree : ∀ k < contents.length, t.has (candidate (naming.pathFor file) k) = false
      ∧ ¬Tree.TooLong (candidate (naming.pathFor file) k) (nameFor last k)) :
    ∃ t', writeEach t file naming contents
        = .ok ((List.range contents.length).map (candidate (naming.pathFor file)), t')
      ∧ t.Keeps t'
      ∧ (∀ k (hk : k < contents.length), t'.get? (spot d last k) = some (.file contents[k]))
      ∧ ∀ m, (∀ k < contents.length, m ≠ spot d last k) → t'.get? m = t.get? m := by
  -- The last backup is made in the tree that the others leave, where all names before are in use.
  induction contents using List.reverseRecOn with
  | nil => exact ⟨t, rfl, .refl t, by simp, by simp⟩
  | append_singleton contents bytes ih =>
    rw [List.length_append, List.length_singleton] at hmany hfree
    obtain ⟨t₁, heach, hkeeps, hgot, hrest⟩ :=
      ih (Nat.le_of_succ_le hmany) fun k hk => hfree k (Nat.lt_succ_of_lt hk)
    have hin := h.keeps hkeeps
    have hshort (k : Nat) (hk : k ≤ contents.length) := (hfree k (Nat.lt_succ_of_le hk)).2
    have hfree := (hfree contents.length (Nat.lt_succ_self _)).1
    have hfree₁ : t₁.has (candidate (naming.pathFor file) contents.length) = false := by
      rw [has_candidate hin,
        hrest _ fun k hk heq => Nat.ne_of_gt hk (spot_injective d last heq), ← has_candidate h, hfree]
    have hused (k : Nat) (hk : k < contents.length) :
        t₁.has (candidate (naming.pathFor file) k) = true := by
      rw [has_candidate hin, hgot k hk]
      rfl
    obtain ⟨hfits, hwrite⟩ := write_of_free bytes hin hmany hused hfree₁ hshort
    have hput := Tree.get?_put hfits
    refine ⟨_, ?_, hkeeps.trans (Tree.keeps_put_file hfits), fun k hk => ?_, fun m hm => ?_⟩
    · simp [writeEach_concat, heach, hwrite, List.range_succ, bind, Except.bind, pure, Except.pure]
    · rw [List.length_append, List.length_singleton] at hk
      rw [hput]
      rcases Nat.lt_succ_iff_lt_or_eq.1 hk with hlt | rfl
      · rw [if_neg fun heq => Nat.ne_of_lt hlt (spot_injective d last heq), hgot k hlt,
          List.getElem_append_left hlt]
      · simp
    · rw [List.length_append, List.length_singleton] at hm
      rw [hput, if_neg (hm _ (Nat.lt_succ_self _)),
        hrest m fun k hk => hm k (Nat.lt_succ_of_lt hk)]

/-- Names in an existing directory can be refused only because they are in use, or because they or
their paths are too long. -/
theorem write_eq_error_iff_of_nameIn (h : t.NameIn (naming.pathFor file) d last) :
    write t file bytes naming = .error f
      ↔ (f = .noFreeName (naming.pathFor file).display
          ∧ ∀ k < attempts, t.has (candidate (naming.pathFor file) k) = true
            ∧ ¬Tree.TooLong (candidate (naming.pathFor file) k) (nameFor last k))
        ∨ f = .nameTooLong
          ∧ ∃ n < attempts, Tree.TooLong (candidate (naming.pathFor file) n) (nameFor last n)
            ∧ ∀ k < n, t.has (candidate (naming.pathFor file) k) = true
              ∧ ¬Tree.TooLong (candidate (naming.pathFor file) k) (nameFor last k) := by
  rw [write_eq_error_iff]
  simp only [(nameIn_candidate h _).create_eq_occupied_iff]
  refine or_congr_right ⟨?_, ?_⟩
  · rintro ⟨n, hn, hcreate, hf, hbefore⟩
    rw [create_candidate h] at hcreate
    split at hcreate
    · next hlong => exact ⟨(Except.error.inj hcreate).symm, n, hn, hlong, hbefore⟩
    · split at hcreate
      · exact absurd (Except.error.inj hcreate).symm hf
      · cases hcreate
  · rintro ⟨rfl, n, hn, hlong, hbefore⟩
    exact ⟨n, hn, by rw [create_candidate h, if_pos hlong], nofun, hbefore⟩

/-- A backup goes to the first of its paths where nothing exists, and nothing else changes.  A run
that cannot make one goes on with the tree it had.  With names in an existing directory this
happens only if all of them are in use, or if before one is free a name or its path is too long.
So one backup after another finds a place as long as names are free and nothing is too long. -/
theorem write_first_free (t : Tree) (file : Path) (naming : Naming) :
    (∀ bytes b t', write t file bytes naming = .ok (b, t') →
        b.file = file
          ∧ (∃ n < attempts, b.copy = candidate (naming.pathFor file) n
            ∧ ∀ k < n, t.has (candidate (naming.pathFor file) k) = true)
          ∧ t.Creates b.copy bytes t')
      ∧ (∀ bytes f, write t file bytes naming = .error f →
          ∀ job text shown s, job.config.backup = naming →
            Run.overwrite job t file bytes text shown s = (Run.failed shown (.backup file f), t))
      ∧ (∀ bytes f d last, t.NameIn (naming.pathFor file) d last →
          (write t file bytes naming = .error f
            ↔ (f = .noFreeName (naming.pathFor file).display
                ∧ ∀ k < attempts, t.has (candidate (naming.pathFor file) k) = true
                  ∧ ¬Tree.TooLong (candidate (naming.pathFor file) k) (nameFor last k))
              ∨ f = .nameTooLong
                ∧ ∃ n < attempts, Tree.TooLong (candidate (naming.pathFor file) n) (nameFor last n)
                  ∧ ∀ k < n, t.has (candidate (naming.pathFor file) k) = true
                    ∧ ¬Tree.TooLong (candidate (naming.pathFor file) k) (nameFor last k)))
      ∧ ∀ contents d last, t.NameIn (naming.pathFor file) d last → contents.length ≤ attempts →
          (∀ k < contents.length, t.has (candidate (naming.pathFor file) k) = false
            ∧ ¬Tree.TooLong (candidate (naming.pathFor file) k) (nameFor last k)) →
          ∃ t', writeEach t file naming contents
              = .ok ((List.range contents.length).map (candidate (naming.pathFor file)), t')
            ∧ (∀ k (hk : k < contents.length),
                t'.read (candidate (naming.pathFor file) k) = .ok contents[k])
            ∧ (∀ j < contents.length, ∀ k < contents.length,
                t'.locate (candidate (naming.pathFor file) j)
                  = t'.locate (candidate (naming.pathFor file) k) → j = k)
            ∧ t'.here = t.here
            ∧ ∀ m, (∀ k < contents.length,
                t'.locate (candidate (naming.pathFor file) k) ≠ .ok m) → t'.get? m = t.get? m := by
  refine ⟨fun bytes b t' h => ?_, fun bytes f h job text shown s hnaming => ?_,
    fun bytes f d last hin => write_eq_error_iff_of_nameIn hin,
    fun contents d last hin hmany hfree => ?_⟩
  · obtain ⟨hfile, n, hn, hcopy, hcreate, hbefore⟩ := write_eq_ok_iff.1 h
    exact ⟨hfile, ⟨n, hn, hcopy, fun k hk => Tree.has_of_create_occupied (hbefore k hk)⟩,
      Tree.creates_of_create hcreate⟩
  · subst hnaming
    unfold Run.overwrite
    rw [h]
  · obtain ⟨t', heach, hkeeps, hgot, hrest⟩ := writeEach_of_free hin hmany hfree
    have hnew (k : Nat) (hk : k < contents.length) :
        t.get? (spot d last k) ≠ some .directory := by
      have hnone := (hfree k hk).1
      rw [has_candidate hin, Option.isSome_eq_false_iff, Option.isNone_iff_eq_none] at hnone
      simp [hnone]
    have hlocate (k : Nat) (hk : k < contents.length) :
        t'.locate (candidate (naming.pathFor file) k) = .ok (spot d last k) :=
      hkeeps.locate_of_locateNew (locateNew_candidate hin (hfree k hk).2) (hnew k hk)
        (by rw [hgot k hk]; rfl)
    refine ⟨t', heach, fun k hk => Tree.read_eq_ok.2 ⟨_, hlocate k hk, hgot k hk⟩,
      fun j hj k hk heq => ?_, hkeeps.here, fun m hm => hrest m fun k hk heq => ?_⟩
    · rw [hlocate j hj, hlocate k hk] at heq
      exact spot_injective d last (Except.ok.inj heq)
    · exact hm k hk (by rw [hlocate k hk, heq])

/-- A file, and a directory where its first backup would go. -/
def sampleTree : Tree :=
  (Tree.empty.put ["a.ts"] (.file "x".toUTF8)).put ["a.ts.bak"] .directory

/-- The second name is taken when a directory has the first, and three backups in succession have
three names. -/
theorem write_sample :
    (∃ b t', write sampleTree ⟨"a.ts"⟩ "x".toUTF8 (.suffix "bak") = .ok (b, t')
        ∧ b.copy = ⟨"a.ts.bak.1"⟩ ∧ sampleTree.Creates ⟨"a.ts.bak.1"⟩ "x".toUTF8 t')
      ∧ ∃ t', writeEach sampleTree ⟨"a.ts"⟩ (.suffix "old") ["1".toUTF8, "2".toUTF8, "3".toUTF8]
          = .ok ([⟨"a.ts.old"⟩, ⟨"a.ts.old.1"⟩, ⟨"a.ts.old.2"⟩], t')
        ∧ t'.read ⟨"a.ts.old.1"⟩ = .ok "2".toUTF8 := by
  constructor
  · have hcopy : (write sampleTree ⟨"a.ts"⟩ "x".toUTF8 (.suffix "bak")).toOption.map
        (fun x => x.1.copy) = some ⟨"a.ts.bak.1"⟩ := by decide +kernel
    cases h : write sampleTree ⟨"a.ts"⟩ "x".toUTF8 (.suffix "bak") with
    | error f =>
      rw [h] at hcopy
      cases hcopy
    | ok x =>
      obtain ⟨b, t'⟩ := x
      rw [h] at hcopy
      have hb : b.copy = ⟨"a.ts.bak.1"⟩ := Option.some.inj hcopy
      exact ⟨b, t', rfl, hb, hb ▸ ((write_first_free _ _ _).1 _ _ _ h).2.2⟩
  · have hbase : (Naming.suffix "old").pathFor ⟨"a.ts"⟩ = ⟨"a.ts.old"⟩ := by decide +kernel
    have hin : sampleTree.NameIn ((Naming.suffix "old").pathFor ⟨"a.ts"⟩) []
        (RawText.ofString "a.ts.old").bytes := by
      rw [hbase]
      exact ⟨⟨[], by decide +kernel, rfl⟩, rfl, by decide, by decide⟩
    obtain ⟨t', heach, hread, -⟩ := (write_first_free sampleTree ⟨"a.ts"⟩ (.suffix "old")).2.2.2
      ["1".toUTF8, "2".toUTF8, "3".toUTF8] [] _ hin (by decide) (by decide +kernel)
    rw [hbase] at heach hread
    have htwo : candidate ⟨"a.ts.old"⟩ 1 = ⟨"a.ts.old.1"⟩ := by decide +kernel
    have hall : (List.range 3).map (candidate ⟨"a.ts.old"⟩)
        = [⟨"a.ts.old"⟩, ⟨"a.ts.old.1"⟩, ⟨"a.ts.old.2"⟩] := by decide +kernel
    exact ⟨t', hall ▸ heach, htwo ▸ hread 1 (by decide)⟩

/-- A name of 251 bytes. -/
def longName : RawText := ⟨List.replicate 251 0x61⟩

/-- A backup of a file with that name, which is as long as a name can be. -/
def longTree : Tree where
  entries := [([longName ++ ".bak"], .file .empty)]
  here := []
  ascending := by
    unfold Tree.Ascending
    exact List.pairwise_singleton _ _
  rooted := by
    refine List.forall_mem_singleton.2 ⟨[], _, rfl, ?_, .inl rfl⟩
    decide +kernel

/-- A backup can be refused when only one name is in use, because the next one is too long. -/
theorem write_too_long :
    (∃ last, longTree.NameIn ((Naming.suffix "bak").pathFor ⟨longName⟩) [] last)
      ∧ longTree.has (candidate ((Naming.suffix "bak").pathFor ⟨longName⟩) 0) = true
      ∧ longTree.has (candidate ((Naming.suffix "bak").pathFor ⟨longName⟩) 1) = false
      ∧ write longTree ⟨longName⟩ .empty (.suffix "bak") = .error .nameTooLong := by
  have hbase : (Naming.suffix "bak").pathFor ⟨longName⟩ = ⟨longName ++ ".bak"⟩ := by
    decide +kernel
  have hin : longTree.NameIn ((Naming.suffix "bak").pathFor ⟨longName⟩) []
      (longName ++ ".bak").bytes := by
    rw [hbase]
    exact Tree.nameIn_name (Tree.get?_nil _) (by decide) (by decide) (by decide) (by decide)
  have hlong : Tree.nameLimit < (nameFor (longName ++ ".bak").bytes 1).length := by
    decide +kernel
  have hused : longTree.has (candidate ((Naming.suffix "bak").pathFor ⟨longName⟩) 0) = true := by
    rw [hbase]
    decide +kernel
  have hshort : ¬Tree.TooLong (candidate ((Naming.suffix "bak").pathFor ⟨longName⟩) 0)
      (nameFor (longName ++ ".bak").bytes 0) := by
    rw [hbase]
    decide +kernel
  refine ⟨⟨_, hin⟩, hused, ?_,
    (write_eq_error_iff_of_nameIn hin).2 (.inr ⟨rfl, 1, by decide, .inl hlong, ?_⟩)⟩
  · rw [has_candidate hin]
    exact Bool.eq_false_iff.2 fun hsome => Tree.NameIn.short_of_isSome hsome hlong
  · intro k hk
    obtain rfl := Nat.lt_one_iff.1 hk
    exact ⟨hused, hshort⟩

end Backup
end SourceMend
