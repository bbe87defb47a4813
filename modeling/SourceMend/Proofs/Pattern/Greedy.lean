import SourceMend.Proofs.Pattern.Search

/-!
# Greedy rounds

A match that ends with greedy rounds goes as far as it can: no further round can follow it
(`Chosen.not_starts_again`).
-/

namespace SourceMend.Pattern

variable {s pre mid post tail : Text} {st : State} {rest : Rest} {r : State} {place : Nat}

/-- Greedy rounds end where no further ones succeed. -/
theorem runAgain_last {n : Node Positions Positions} (hleast : 0 < n.least)
    (h : (Node.again place true n).run st rest = some r) (hs : s = pre ++ tail)
    (hleft : st.left = tail.length) :
    ∃ mid post st', tail = mid ++ post ∧ st'.left = post.length ∧ rest st' = some r
      ∧ (Node.again place true n).run st' rest = none := by
  induction hk : st.left using Nat.strongRecOn generalizing st pre tail with
  | ind k ih =>
    obtain ⟨x, tail', gs, st', rfl, hx, hleft', -, h⟩ :=
      run_sound s n pre tail (runAgain_eq_some h) hs hleft
    have hlt : st'.left < st.left := by
      have hpos := List.length_pos_iff.2 (Node.ne_nil_of_least hx hleast)
      rw [hleft, hleft', List.length_append]
      omega
    simp only [hlt, if_true] at h
    split at h
    next => cases h
    next =>
      rcases Option.or_eq_some_iff.1 h with hround | ⟨hround, hrest⟩
      · have hs : s = pre ++ x ++ tail' := by simpa using hs
        obtain ⟨y, post, st'', rfl, h⟩ := ih st'.left (hk ▸ hlt) hround hs hleft' rfl
        exact ⟨x ++ y, post, st'', by simp, h⟩
      · exact ⟨x, tail', st'.pass place, rfl, hleft', hrest, hround⟩

theorem exists_of_map_eq_seq {α β γ δ : Type} {f : α → γ} {g : β → δ} {w : Node α β} {m n : Node γ δ}
    (h : w.map f g = .seq m n) : ∃ m' n', w = .seq m' n' ∧ m'.map f g = m ∧ n'.map f g = n := by
  cases w <;> cases h
  exact ⟨_, _, rfl, rfl, rfl⟩

theorem exists_of_map_eq_again {α β γ δ : Type} {f : α → γ} {g : β → δ} {w : Node α β} {n : Node γ δ}
    {greedy : Bool} (h : w.map f g = .again place greedy n) :
    ∃ n', w = .again place greedy n' ∧ n'.map f g = n := by
  cases w <;> cases h
  exact ⟨_, rfl, rfl⟩

/-- Greedy rounds of a sweep end where no further ones can be followed by what comes after them. -/
theorem Sweep.run_again_seq {b c : Sweep} (hswept : Swept s (s.length + 1) (.seq (.again place true b) c)
    fun _ => True) (hn : (Node.seq (.again place true b) c).orderly = true) (hentries : b.entries = [])
    (hrun : (fitted (.seq (.again place true b) c)).run st some = some r) (hs : s = pre ++ tail)
    (hleft : st.left = tail.length) :
    ∃ x z post hs, tail = x ++ (z ++ post) ∧ r.left = post.length
      ∧ NodeSpans (plain c) (pre ++ x) z post hs
      ∧ ¬ Starts (plain (.seq (.again place true b) c)) (pre ++ x) (z ++ post) := by
  have hleast : 0 < b.least := by
    simp only [Node.orderly, Bool.and_eq_true, decide_eq_true_eq] at hn
    exact hn.1.1.1.1.2
  obtain ⟨x, tail, st', rfl, hleft', hrest, hnone⟩ :=
    runAgain_last (n := fitted b) (by simpa [fitted] using hleast) hrun hs hleft
  have hs : s = pre ++ x ++ tail := by simpa using hs
  obtain ⟨z, post, hs', _, rfl, hz, hleft'', -, hst⟩ := run_sound s (fitted c) _ tail hrest hs hleft'
  cases hst
  refine ⟨x, z, post, hs', rfl, hleft'', spans_of_fitted hz hswept.2 hs (length_lt hs), ?_⟩
  rintro ⟨mid, post', gs, htail, hspans⟩
  rw [htail] at hs hleft'
  have hfitted := fitted_of_spans hspans hswept hs (length_lt hs) trivial
  have hsome : ((fitted (.seq (.again place true b) c)).run st' some).isSome :=
    run_complete hfitted (by simpa [fitted] using hn) hleft'
    (by simp [fitted, Node.map, Node.entries, Node.least, Nat.ne_of_gt hleast, hentries])
    fun _ _ _ => rfl
  have hnone : (fitted (.seq (.again place true b) c)).run st' some = none := hnone
  simp [hnone] at hsome

variable {k m b c : Node CharSet Look} {gs : Captures}

/-- After greedy rounds of a chosen match there are no further rounds. -/
theorem Chosen.not_starts_again
    (h : Chosen (.seq k (.seq m (.seq (.again place true b) c))) pre mid post gs)
    (hn : (Node.seq (.again place true b) c).orderly = true) (hentries : b.entries = []) :
    ∃ x z hs, mid = x ++ z ∧ NodeSpans c (pre ++ x) z post hs
      ∧ ¬ Starts (.seq (.again place true b) c) (pre ++ x) (z ++ post) := by
  obtain ⟨st, hrun, hleft, -⟩ := h
  obtain ⟨w, hw, heq⟩ :=
    Fitted.ofNode_progress (.seq k (.seq m (.seq (.again place true b) c))) (pre ++ (mid ++ post))
  rw [heq] at hrun
  obtain ⟨hplain, hswept⟩ := hw
  simp only at hplain hswept
  generalize hs : pre ++ (mid ++ post) = s at hswept
  clear heq
  obtain ⟨k, w₁, rfl, rfl, hplain₁⟩ := exists_of_map_eq_seq hplain
  obtain ⟨m, w₂, rfl, rfl, hplain₂⟩ := exists_of_map_eq_seq hplain₁
  obtain ⟨w₃, c, rfl, hplain₃, rfl⟩ := exists_of_map_eq_seq hplain₂
  obtain ⟨b, rfl, rfl⟩ := exists_of_map_eq_again hplain₃
  obtain ⟨x, tail, _, st₁, htail, -, hleft₁, -, hrun₁⟩ :=
    run_sound s (Sweep.fitted k) pre (mid ++ post) hrun hs.symm rfl
  obtain ⟨x', tail, _, st₂, rfl, -, hleft₂, -, hrun₂⟩ :=
    run_sound s (Sweep.fitted m) (pre ++ x) _ hrun₁ (by simp [← hs, htail]) hleft₁
  have hs₂ : s = pre ++ x ++ x' ++ tail := by simp [← hs, htail]
  obtain ⟨y, z, post', hs', rfl, hleft', hz, hnot⟩ := Sweep.run_again_seq hswept.2.2
    ((Node.orderly_map ..).symm.trans (by rw [hplain₂, hn])) (by simpa using hentries) hrun₂ hs₂ hleft₂
  obtain ⟨rfl, rfl⟩ : mid = x ++ x' ++ y ++ z ∧ post = post' :=
    List.append_inj' (by simpa using htail) (hleft.symm.trans hleft')
  exact ⟨x ++ x' ++ y, z, hs', rfl, by simpa [Sweep.plain] using hz,
    by simpa [Sweep.plain, Node.map] using hnot⟩

end SourceMend.Pattern
