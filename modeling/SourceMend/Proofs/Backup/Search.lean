import SourceMend.Backup

/-!
# The search for a name

A backup is made in the first attempt whose path is not in use (`write_eq_ok_iff`), and none
is made when all paths are in use or the first that is not is refused (`write_eq_error_iff`).
-/

namespace SourceMend.Backup

variable {t t' : Tree} {file base copy : Path} {bytes : ByteArray} {naming : Naming} {b : Backup}
  {f exhausted : Fault} {ps : List Path}

/-! ## Any paths -/

/-- The search ends at the first path that is not in use. -/
theorem createFirst_eq_ok_iff : createFirst t bytes exhausted ps = .ok (copy, t')
    ↔ ∃ n : Nat, ps[n]? = some copy ∧ t.create copy bytes = .ok t'
      ∧ ∀ k < n, ∀ p, ps[k]? = some p → t.create p bytes = .error .occupied := by
  induction ps with
  | nil => simp [createFirst]
  | cons p ps ih =>
    constructor
    case mp =>
      intro h
      simp only [createFirst] at h
      split at h
      · next hcreate =>
        cases h
        exact ⟨0, rfl, hcreate, by simp⟩
      · next hcreate =>
        obtain ⟨n, hn, hok, hbefore⟩ := ih.1 h
        refine ⟨n + 1, hn, hok, fun k hk q hq => ?_⟩
        cases k with
        | zero => exact Option.some.inj hq ▸ hcreate
        | succ k => exact hbefore k (Nat.lt_of_succ_lt_succ hk) q hq
      · cases h
    case mpr =>
      rintro ⟨n, hn, hok, hbefore⟩
      cases n with
      | zero =>
        obtain rfl : p = copy := Option.some.inj hn
        simp [createFirst, hok]
      | succ n =>
        rw [createFirst, hbefore 0 (Nat.succ_pos n) p rfl]
        exact ih.2 ⟨n, hn, hok, fun k hk => hbefore (k + 1) (Nat.succ_lt_succ hk)⟩

/-- The search fails when every path is in use, or at the first that is not. -/
theorem createFirst_eq_error_iff : createFirst t bytes exhausted ps = .error f
    ↔ (f = exhausted ∧ ∀ p ∈ ps, t.create p bytes = .error .occupied)
      ∨ ∃ (n : Nat) (p : Path), ps[n]? = some p ∧ t.create p bytes = .error f ∧ f ≠ .occupied
        ∧ ∀ k < n, ∀ q, ps[k]? = some q → t.create q bytes = .error .occupied := by
  induction ps with
  | nil => simp [createFirst, eq_comm]
  | cons p ps ih =>
    constructor
    case mp =>
      intro h
      simp only [createFirst] at h
      split at h
      · cases h
      · next hcreate =>
        rcases ih.1 h with ⟨rfl, hall⟩ | ⟨n, q, hn, hq, hf, hbefore⟩
        · exact .inl ⟨rfl, List.forall_mem_cons.2 ⟨hcreate, hall⟩⟩
        · refine .inr ⟨n + 1, q, hn, hq, hf, fun k hk r hr => ?_⟩
          cases k with
          | zero => exact Option.some.inj hr ▸ hcreate
          | succ k => exact hbefore k (Nat.lt_of_succ_lt_succ hk) r hr
      · next g hocc hcreate =>
        cases h
        exact .inr ⟨0, p, rfl, hcreate, hocc, by simp⟩
    case mpr =>
      rintro (⟨rfl, hall⟩ | ⟨n, q, hn, hq, hf, hbefore⟩)
      · obtain ⟨hp, hps⟩ := List.forall_mem_cons.1 hall
        rw [createFirst, hp]
        exact ih.2 (.inl ⟨rfl, hps⟩)
      · cases n with
        | zero =>
          obtain rfl : p = q := Option.some.inj hn
          simp [createFirst, hq]
        | succ n =>
          rw [createFirst, hbefore 0 (Nat.succ_pos n) p rfl]
          exact ih.2 (.inr ⟨n, q, hn, hq, hf,
            fun k hk => hbefore (k + 1) (Nat.succ_lt_succ hk)⟩)

/-! ## The paths of a backup -/

/-- The paths that are tried. -/
theorem getElem?_candidates {n : Nat} {p : Path} :
    ((List.range attempts).map (candidate base))[n]? = some p
      ↔ n < attempts ∧ candidate base n = p := by
  rw [List.getElem?_map, Option.map_eq_some_iff]
  simp [List.getElem?_eq_some_iff, and_assoc]

/-- A backup is made in the first attempt whose path is not in use. -/
theorem write_eq_ok_iff : write t file bytes naming = .ok (b, t')
    ↔ b.file = file ∧ ∃ n < attempts, b.copy = candidate (naming.pathFor file) n
      ∧ t.create b.copy bytes = .ok t'
      ∧ ∀ k < n, t.create (candidate (naming.pathFor file) k) bytes = .error .occupied := by
  have hbind : write t file bytes naming = .ok (b, t') ↔ b.file = file
      ∧ createFirst t bytes (.noFreeName (naming.pathFor file).display)
        ((List.range attempts).map (candidate (naming.pathFor file))) = .ok (b.copy, t') := by
    simp only [write, bind, Except.bind]
    obtain ⟨original, copy⟩ := b
    split
    · next h => simp [h]
    · next x h => simp [h, pure, Except.pure, Prod.ext_iff, eq_comm, and_assoc]
  rw [hbind, createFirst_eq_ok_iff]
  simp only [getElem?_candidates]
  refine and_congr_right fun _ => exists_congr fun n => ?_
  constructor
  · rintro ⟨⟨hn, hcopy⟩, hok, hbefore⟩
    exact ⟨hn, hcopy.symm, hok, fun k hk => hbefore k hk _ ⟨Nat.lt_trans hk hn, rfl⟩⟩
  · rintro ⟨hn, hcopy, hok, hbefore⟩
    refine ⟨⟨hn, hcopy.symm⟩, hok, fun k hk p hp => ?_⟩
    exact hp.2 ▸ hbefore k hk

/-- No backup is made when all paths are in use, or when the first that is not is refused. -/
theorem write_eq_error_iff : write t file bytes naming = .error f
    ↔ (f = .noFreeName (naming.pathFor file).display
        ∧ ∀ k < attempts, t.create (candidate (naming.pathFor file) k) bytes = .error .occupied)
      ∨ ∃ n < attempts, t.create (candidate (naming.pathFor file) n) bytes = .error f
        ∧ f ≠ .occupied
        ∧ ∀ k < n, t.create (candidate (naming.pathFor file) k) bytes = .error .occupied := by
  have hbind : write t file bytes naming = .error f
      ↔ createFirst t bytes (.noFreeName (naming.pathFor file).display)
        ((List.range attempts).map (candidate (naming.pathFor file))) = .error f := by
    simp only [write, bind, Except.bind]
    split
    · next h => simp [h]
    · next x h => simp [h, pure, Except.pure]
  rw [hbind, createFirst_eq_error_iff]
  simp only [getElem?_candidates, List.forall_mem_map, List.mem_range]
  refine or_congr_right ⟨?_, ?_⟩
  · rintro ⟨n, p, ⟨hn, rfl⟩, hcreate, hf, hbefore⟩
    exact ⟨n, hn, hcreate, hf, fun k hk => hbefore k hk _ ⟨Nat.lt_trans hk hn, rfl⟩⟩
  · rintro ⟨n, hn, hcreate, hf, hbefore⟩
    refine ⟨n, _, ⟨hn, rfl⟩, hcreate, hf, fun k hk p hp => ?_⟩
    exact hp.2 ▸ hbefore k hk

end SourceMend.Backup
