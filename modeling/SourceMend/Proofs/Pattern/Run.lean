import SourceMend.Proofs.Pattern.Spans

/-!
# Runs find what a node spans

A run that succeeds has found a match in the sense of `Spans`, with its groups
(`run_sound`).  If a node is orderly and a match of it can be continued, the run
succeeds, though it may find another match (`run_complete`).
-/

namespace SourceMend.Pattern

/-- Whether a position, given by what follows, is in a set of positions. -/
def Positions.at (ps : Positions) (_ post : Text) : Prop := ps.has post.length = true

/-- What a node fitted to a text spans. -/
abbrev FittedSpans : Node Positions Positions → Text → Text → Text → Captures → Prop :=
  Spans Positions.at Positions.at

/-- The part of a text between two positions that are counted from the end. -/
def cut (s : Text) (start stop : Nat) : Text := s.extract (s.length - start) (s.length - stop)

theorem cut_eq (pre mid post : Text) :
    cut (pre ++ (mid ++ post)) (mid ++ post).length post.length = mid := by
  have hstart : (pre ++ (mid ++ post)).length - (mid ++ post).length = pre.length := by simp
  have hstop : (pre ++ (mid ++ post)).length - post.length - pre.length = mid.length := by
    simp only [List.length_append]
    omega
  rw [cut, List.extract_eq_take_drop, hstart, hstop]
  simp

/-- The texts of the groups of a state. -/
def State.captures (st : State) (s : Text) : Captures :=
  st.groups.map fun g => (g.1, cut s g.2.1 g.2.2)

@[simp] theorem State.captures_pass (st : State) (place : Nat) (s : Text) :
    (st.pass place).captures s = st.captures s := rfl

@[simp] theorem State.captures_advance (st : State) (s : Text) :
    st.advance.captures s = st.captures s := rfl

@[simp] theorem State.captures_keep (st : State) (i start : Nat) (s : Text) :
    (st.keep i start).captures s = (i, cut s start st.left) :: st.captures s := rfl

/-! ## Soundness -/

/-- That a run from `st` goes through a match of `n` and on with `rest`. -/
def Passes (s : Text) (n : Node Positions Positions) (pre tail : Text) (st : State) (rest : Rest)
    (r : State) : Prop :=
  ∃ mid post gs st', tail = mid ++ post ∧ FittedSpans n pre mid post gs ∧ st'.left = post.length
    ∧ st'.captures s = gs ++ st.captures s ∧ rest st' = some r

/-- That every run that succeeds goes through a match of `n`. -/
def Sound (s : Text) (n : Node Positions Positions) (run : State → Rest → Option State) : Prop :=
  ∀ {st rest r} pre tail, run st rest = some r → s = pre ++ tail → st.left = tail.length →
    Passes s n pre tail st rest r

variable {s pre tail : Text} {m n : Node Positions Positions} {st : State} {rest : Rest} {r : State}
  {place : Nat} {greedy : Bool} {body : State → Rest → Option State}

theorem runLoop_eq_some (h : runLoop place greedy body rest st = some r) :
    rest (st.pass place) = some r ∨ (body (st.pass place) fun s' =>
      if s'.left < st.left then runLoop place greedy body rest s' else none) = some r := by
  unfold runLoop at h
  split at h
  · simp at h
  · cases greedy
    · exact (Option.or_eq_some_iff.1 h).imp_right fun h => h.2
    · exact (Option.or_eq_some_iff.1 h).symm.imp_left fun h => h.2

theorem runAgain_eq_some (h : runAgain place greedy body rest st = some r) :
    (body st fun s' =>
      if s'.passed.contains place then none
      else
        let round :=
          if s'.left < st.left then runAgain place greedy body rest (s'.pass place) else none
        if greedy then round.or (rest (s'.pass place)) else (rest (s'.pass place)).or round)
      = some r := by
  unfold runAgain at h
  exact h

theorem runLoop_sound (hbody : Sound s n body) :
    Sound s (.loop place greedy n) fun st rest => runLoop place greedy body rest st := by
  intro st rest r pre tail h hs hleft
  induction hk : st.left using Nat.strongRecOn generalizing st pre tail with
  | ind k ih =>
    rcases runLoop_eq_some h with h | h
    · exact ⟨[], tail, [], st.pass place, rfl, .leave, hleft, rfl, h⟩
    · obtain ⟨x, tail', gs, st', rfl, hx, hleft', hgroups, h⟩ := hbody pre tail h hs hleft
      simp only at h
      split at h
      next hlt =>
        obtain ⟨y, post, hs2, st'', rfl, hy, hleft'', hgroups', h⟩ :=
          ih st'.left (hk ▸ hlt) (pre ++ x) tail' h (by simpa using hs) hleft' rfl
        refine ⟨x ++ y, post, hs2 ++ gs, st'', by simp, .round ?_ hx hy, hleft'',
          by simp [hgroups', hgroups], h⟩
        rintro rfl
        simp [hleft, hleft'] at hlt
      next => simp at h

theorem runAgain_sound (hbody : Sound s n body) :
    Sound s (.again place greedy n) fun st rest => runAgain place greedy body rest st := by
  intro st rest r pre tail h hs hleft
  induction hk : st.left using Nat.strongRecOn generalizing st pre tail with
  | ind k ih =>
    obtain ⟨x, tail', gs, st', rfl, hx, hleft', hgroups, h⟩ :=
      hbody pre tail (runAgain_eq_some h) hs hleft
    simp only at h
    split at h
    next => simp at h
    next =>
      have hcases : rest (st'.pass place) = some r ∨ (if st'.left < st.left then
          runAgain place greedy body rest (st'.pass place) else none) = some r := by
        cases greedy
        · exact (Option.or_eq_some_iff.1 h).imp_right fun h => h.2
        · exact (Option.or_eq_some_iff.1 h).symm.imp_left fun h => h.2
      rcases hcases with h | h
      · exact ⟨x, tail', gs, st'.pass place, rfl, .once hx, hleft', hgroups, h⟩
      · split at h
        next hlt =>
          obtain ⟨y, post, hs2, st'', rfl, hy, hleft'', hgroups', h⟩ :=
            ih st'.left (hk ▸ hlt) (pre ++ x) tail' h (by simpa using hs) hleft' rfl
          refine ⟨x ++ y, post, hs2 ++ gs, st'', by simp, .further ?_ hx hy, hleft'',
            by simp [hgroups', hgroups], h⟩
          rintro rfl
          simp [hleft, hleft'] at hlt
        next => simp at h

/-- A run that succeeds has found a match and its groups. -/
theorem run_sound (s : Text) (n : Node Positions Positions) : Sound s n n.run := by
  induction n with
  | skip => exact fun pre tail h _ hleft => ⟨[], tail, [], _, rfl, .skip, hleft, rfl, h⟩
  | never => exact fun _ _ h _ _ => nomatch h
  | take ps =>
    intro st rest r pre tail h hs hleft
    simp only [Node.run] at h
    split at h
    next hcan =>
      obtain ⟨hpos, hhas⟩ := Bool.and_eq_true_iff.1 hcan
      cases tail with
      | nil => simp [hleft] at hpos
      | cons c post =>
        refine ⟨[c], post, [], st.advance, rfl, .take ?_, by simp [State.advance, hleft], rfl, h⟩
        simpa [Positions.at, hleft] using hhas
    next => cases h
  | check ps =>
    intro st rest r pre tail h hs hleft
    simp only [Node.run] at h
    split at h
    next hcan => exact ⟨[], tail, [], st, rfl, .check (by simpa [Positions.at, hleft] using hcan),
      hleft, rfl, h⟩
    next => cases h
  | group i n ih =>
    intro st rest r pre tail h hs hleft
    obtain ⟨mid, post, gs, st', rfl, hmid, hleft', hgroups, h⟩ := ih pre tail h hs hleft
    refine ⟨mid, post, (i, mid) :: gs, st'.keep i st.left, rfl, .group hmid, hleft', ?_, h⟩
    have hcut : cut s st.left st'.left = mid := by
      rw [hleft, hleft', hs]
      exact cut_eq pre mid post
    simp [hgroups, hcut]
  | seq m n ihm ihn =>
    intro st rest r pre tail h hs hleft
    obtain ⟨x, tail', gs, st', rfl, hx, hleft', hgroups, h⟩ := ihm pre tail h hs hleft
    obtain ⟨y, post, hs2, st'', rfl, hy, hleft'', hgroups', h⟩ :=
      ihn (pre ++ x) tail' h (by simpa using hs) hleft'
    exact ⟨x ++ y, post, hs2 ++ gs, st'', by simp, .seq hx hy, hleft'',
      by simp [hgroups', hgroups], h⟩
  | fork place m n ihm ihn =>
    intro st rest r pre tail h hs hleft
    simp only [Node.run] at h
    split at h
    · cases h
    · rcases Option.or_eq_some_iff.1 h with h | ⟨-, h⟩
      · obtain ⟨mid, post, gs, st', htail, hmid, h⟩ := ihm pre tail h hs hleft
        exact ⟨mid, post, gs, st', htail, .first hmid, h⟩
      · obtain ⟨mid, post, gs, st', htail, hmid, h⟩ := ihn pre tail h hs hleft
        exact ⟨mid, post, gs, st', htail, .second hmid, h⟩
  | loop place greedy n ih => exact runLoop_sound ih
  | again place greedy n ih => exact runAgain_sound ih

/-! ## Completeness -/

theorem runLoop_isSome (hplace : place ∉ st.passed)
    (h : (rest (st.pass place)).isSome ∨ (body (st.pass place) fun s' =>
      if s'.left < st.left then runLoop place greedy body rest s' else none).isSome) :
    (runLoop place greedy body rest st).isSome := by
  unfold runLoop
  simp only [List.contains_iff_mem, hplace, if_false]
  split
  · exact Option.isSome_or.symm ▸ Bool.or_eq_true_iff.2 h.symm
  · exact Option.isSome_or.symm ▸ Bool.or_eq_true_iff.2 h

theorem next_isSome {round : Option State} (hplace : place ∉ st.passed)
    (h : (rest (st.pass place)).isSome ∨ round.isSome) :
    (if st.passed.contains place then none
      else if greedy then round.or (rest (st.pass place))
      else (rest (st.pass place)).or round).isSome := by
  simp only [List.contains_iff_mem, hplace, if_false]
  split
  · exact Option.isSome_or.symm ▸ Bool.or_eq_true_iff.2 h.symm
  · exact Option.isSome_or.symm ▸ Bool.or_eq_true_iff.2 h

theorem runAgain_isSome (h : (body st fun s' =>
      if s'.passed.contains place then none
      else
        let round :=
          if s'.left < st.left then runAgain place greedy body rest (s'.pass place) else none
        if greedy then round.or (rest (s'.pass place)) else (rest (s'.pass place)).or round).isSome) :
    (runAgain place greedy body rest st).isSome := by
  unfold runAgain
  exact h

theorem run_fork (hplace : place ∉ st.passed) : ((Node.fork place m n).run st rest).isSome
    = ((m.run (st.pass place) rest).isSome || (n.run (st.pass place) rest).isSome) := by
  simp only [Node.run, List.contains_iff_mem, hplace, if_false, Option.isSome_or]

theorem mem_pass {p : Nat} : p ∈ (st.pass place).passed ↔ p = place ∨ p ∈ st.passed :=
  List.mem_cons

theorem not_mem_pass {p : Nat} (hne : p ≠ place) (h : p ∉ st.passed) :
    p ∉ (st.pass place).passed := fun hp => (mem_pass.1 hp).elim hne h

/-- Which places a state can have passed at the end of a match of `n` that began at `st`. -/
def Leaves (n : Node Positions Positions) (mid : Text) (st st' : State) : Prop :=
  ∀ p ∈ st'.passed, p ∈ n.exits ∨ (mid = [] ∧ p ∈ st.passed)

namespace Leaves

variable {mid x y : Text} {st' st'' : State} {p : Nat}

/-- At the end of a match that takes a character only exits are passed. -/
theorem mem_exits (h : Leaves n mid st st') (hne : mid ≠ []) : ∀ p ∈ st'.passed, p ∈ n.exits :=
  fun p hp => (h p hp).resolve_right fun h => hne h.1

/-- Where only exits are passed, only exits are passed at the end of a match. -/
theorem mem_exits_of_forall (h : Leaves n mid st st') (hst : ∀ p ∈ st.passed, p ∈ n.exits) :
    ∀ p ∈ st'.passed, p ∈ n.exits := fun p hp => (h p hp).elim id fun h => hst p h.2

/-- A place that is passed before a part of a node may be passed at the end of the node. -/
theorem of_pass (h : Leaves m mid (st.pass place) st') (hexits : m.exits ⊆ n.exits)
    (hplace : place ∈ n.exits) : Leaves n mid st st' := by
  intro p hp
  rcases h p hp with hexit | ⟨hmid, hp⟩
  · exact .inl (hexits hexit)
  · rcases mem_pass.1 hp with rfl | hp
    · exact .inl hplace
    · exact .inr ⟨hmid, hp⟩

/-- What one match may pass may stay passed through another one that takes no character. -/
theorem seq (h : Leaves m x st st') (h' : Leaves n y st' st'') (hleast : y = [] → n.least = 0) :
    Leaves (.seq m n) (x ++ y) st st'' := by
  intro p hp
  rcases h' p hp with hexit | ⟨rfl, hp⟩
  · exact .inl (List.mem_append_left _ hexit)
  · rcases h p hp with hexit | ⟨rfl, hp⟩
    · exact .inl (List.mem_append_right _ (by simpa [hleast rfl] using hexit))
    · exact .inr ⟨rfl, hp⟩

end Leaves

/-- That a run succeeds if no place on the way into `n` is passed and the rest succeeds wherever a
match `mid` of `n` can end. -/
def Completes (n : Node Positions Positions) (mid post : Text) : Prop :=
  ∀ ⦃st rest⦄, st.left = (mid ++ post).length → (∀ p ∈ n.entries, p ∉ st.passed) →
    (∀ st', st'.left = post.length → Leaves n mid st st' → (rest st').isSome) →
    (n.run st rest).isSome

namespace Completes

variable {mid post x y : Text}

theorem seq (hm : Completes m x (y ++ post)) (hn : Completes n y post)
    (hdisjoint : ∀ p ∈ m.exits, p ∉ n.entries) (hleastm : x = [] → m.least = 0)
    (hleastn : y = [] → n.least = 0) : Completes (.seq m n) (x ++ y) post := by
  intro st rest hleft hentries hrest
  simp only [Node.entries, List.mem_append] at hentries
  refine hm (by simpa using hleft) (fun p hp => hentries p (.inl hp)) fun st' hleft' hst' => ?_
  refine hn hleft' (fun p hp hpassed => ?_) fun st'' hleft'' hst'' =>
    hrest st'' hleft'' (hst'.seq hst'' hleastn)
  rcases hst' p hpassed with hexit | ⟨hx, hpassed⟩
  · exact hdisjoint p hexit hp
  · exact hentries p (.inr (by simpa [hleastm hx] using hp)) hpassed

theorem first (hm : Completes m mid post) (hplace : place ∉ m.entries) :
    Completes (.fork place m n) mid post := by
  intro st rest hleft hentries hrest
  simp only [Node.entries, List.mem_cons, List.mem_append] at hentries
  rw [run_fork (hentries place (.inl rfl)), Bool.or_eq_true]
  refine .inl (hm hleft (fun p hp => ?_) fun st' hleft' hst' => hrest st' hleft' ?_)
  · exact not_mem_pass (fun h => hplace (h ▸ hp)) (hentries p (.inr (.inl hp)))
  · exact hst'.of_pass (List.subset_cons_of_subset _ (List.subset_append_left _ _)) List.mem_cons_self

theorem second (hn : Completes n mid post) (hplace : place ∉ n.entries) :
    Completes (.fork place m n) mid post := by
  intro st rest hleft hentries hrest
  simp only [Node.entries, List.mem_cons, List.mem_append] at hentries
  rw [run_fork (hentries place (.inl rfl)), Bool.or_eq_true]
  refine .inr (hn hleft (fun p hp => ?_) fun st' hleft' hst' => hrest st' hleft' ?_)
  · exact not_mem_pass (fun h => hplace (h ▸ hp)) (hentries p (.inr (.inr hp)))
  · exact hst'.of_pass (List.subset_cons_of_subset _ (List.subset_append_right _ _)) List.mem_cons_self

theorem leave (n : Node Positions Positions) (post : Text) :
    Completes (.loop place greedy n) [] post := by
  intro st rest hleft hentries hrest
  refine runLoop_isSome (hentries place List.mem_cons_self) (.inl (hrest _ hleft fun p hp => ?_))
  rcases mem_pass.1 hp with rfl | hp
  · exact .inl List.mem_cons_self
  · exact .inr ⟨rfl, hp⟩

theorem round (hne : x ≠ []) (hn : Completes n x (y ++ post))
    (hloop : Completes (.loop place greedy n) y post) (hexits : place ∉ n.exits)
    (hdisjoint : ∀ p ∈ place :: n.exits, p ∉ n.entries) :
    Completes (.loop place greedy n) (x ++ y) post := by
  intro st rest hleft hentries hrest
  refine runLoop_isSome (hentries place List.mem_cons_self)
    (.inr (hn (by simpa [State.pass] using hleft) (fun p hp => ?_) fun st' hleft' hst' => ?_))
  · have hplace : p ≠ place := fun h => hdisjoint place List.mem_cons_self (h ▸ hp)
    exact not_mem_pass hplace (hentries p (List.mem_cons_of_mem _ hp))
  · -- the round takes a character, so what is passed now is passed by it
    have hout := hst'.mem_exits hne
    rw [if_pos (by simpa [hleft, hleft'] using List.length_pos_iff.2 hne)]
    refine hloop hleft' (fun p hp hpassed => ?_) fun st'' hleft'' hst'' => ?_
    · rcases List.mem_cons.1 hp with rfl | hp
      · exact hexits (hout p hpassed)
      · exact hdisjoint p (List.mem_cons_of_mem _ (hout p hpassed)) hp
    · refine hrest st'' hleft'' fun p hp => .inl ?_
      exact hst''.mem_exits_of_forall (fun p hp => List.mem_cons_of_mem _ (hout p hp)) p hp

theorem once (hne : mid ≠ []) (hn : Completes n mid post) (hexits : place ∉ n.exits) :
    Completes (.again place greedy n) mid post := by
  intro st rest hleft hentries hrest
  refine runAgain_isSome (hn hleft hentries fun st' hleft' hst' => ?_)
  have hout := hst'.mem_exits hne
  refine next_isSome (fun hp => hexits (hout place hp)) (.inl (hrest _ hleft' fun p hp => .inl ?_))
  rcases mem_pass.1 hp with rfl | hp
  · exact List.mem_cons_self
  · exact List.mem_cons_of_mem _ (hout p hp)

theorem further (hne : x ≠ []) (hn : Completes n x (y ++ post))
    (hagain : Completes (.again place greedy n) y post) (hexits : place ∉ n.exits)
    (hdisjoint : ∀ p ∈ place :: n.exits, p ∉ n.entries) :
    Completes (.again place greedy n) (x ++ y) post := by
  intro st rest hleft hentries hrest
  refine runAgain_isSome (hn (by simpa using hleft) hentries fun st' hleft' hst' => ?_)
  have hout := hst'.mem_exits hne
  refine next_isSome (fun hp => hexits (hout place hp)) (.inr ?_)
  rw [if_pos (by simpa [hleft, hleft'] using List.length_pos_iff.2 hne)]
  have hpassed : ∀ p ∈ (st'.pass place).passed, p ∈ (Node.again place greedy n).exits := fun p hp =>
    (mem_pass.1 hp).elim (fun h => h ▸ List.mem_cons_self) fun hp => List.mem_cons_of_mem _ (hout p hp)
  refine hagain hleft' (fun p hp h => hdisjoint p (hpassed p h) hp) fun st'' hleft'' hst'' => ?_
  exact hrest st'' hleft'' fun p hp => .inl (hst''.mem_exits_of_forall hpassed p hp)

end Completes

/-- A run succeeds if there is a match from which the rest succeeds. -/
theorem run_complete {mid post : Text} {gs : Captures} (h : FittedSpans n pre mid post gs)
    (horderly : n.orderly = true) : Completes n mid post := by
  induction h with
  | skip =>
    intro st rest hleft _ hrest
    exact hrest st hleft fun p hp => .inr ⟨rfl, hp⟩
  | @take ps c _ post hhas =>
    intro st rest hleft _ hrest
    have hcan : (0 < st.left && ps.has st.left) = true := by
      simpa [hleft, Positions.at] using hhas
    simp only [Node.run, hcan, if_true]
    exact hrest _ (by simp [State.advance, hleft]) fun p hp => by simp [State.advance] at hp
  | @check ps _ post hhas =>
    intro st rest hleft _ hrest
    have hcan : ps.has st.left = true := by simpa [hleft, Positions.at] using hhas
    simp only [Node.run, hcan, if_true]
    exact hrest st hleft fun p hp => .inr ⟨rfl, hp⟩
  | group _ ih =>
    intro st rest hleft hentries hrest
    exact ih horderly hleft hentries fun st' hleft' hleaves => hrest _ hleft' hleaves
  | seq hx hy ihm ihn =>
    simp only [Node.orderly, Bool.and_eq_true, decide_eq_true_eq] at horderly
    obtain ⟨⟨hm, hn⟩, hdisjoint⟩ := horderly
    exact (ihm hm).seq (ihn hn) hdisjoint (Node.least_eq_zero hx) (Node.least_eq_zero hy)
  | first _ ih =>
    simp only [Node.orderly, Bool.and_eq_true, decide_eq_true_eq] at horderly
    obtain ⟨⟨⟨hm, -⟩, hplace⟩, -⟩ := horderly
    exact (ih hm).first hplace
  | second _ ih =>
    simp only [Node.orderly, Bool.and_eq_true, decide_eq_true_eq] at horderly
    obtain ⟨⟨⟨-, hn⟩, -⟩, hplace⟩ := horderly
    exact (ih hn).second hplace
  | leave => exact .leave _ _
  | round hne _ _ ihx ihy =>
    have hloop := horderly
    simp only [Node.orderly, Bool.and_eq_true, decide_eq_true_eq] at horderly
    obtain ⟨⟨hn, hexits⟩, hdisjoint⟩ := horderly
    exact .round hne (ihx hn) (ihy hloop) hexits hdisjoint
  | once hmid ih =>
    simp only [Node.orderly, Bool.and_eq_true, decide_eq_true_eq] at horderly
    obtain ⟨⟨⟨hn, hleast⟩, hexits⟩, -⟩ := horderly
    exact (ih hn).once (Node.ne_nil_of_least hmid hleast) hexits
  | further hne _ _ ihx ihy =>
    have hagain := horderly
    simp only [Node.orderly, Bool.and_eq_true, decide_eq_true_eq] at horderly
    obtain ⟨⟨⟨hn, -⟩, hexits⟩, hdisjoint⟩ := horderly
    exact .further hne (ihx hn) (ihy hagain) hexits hdisjoint

end SourceMend.Pattern
