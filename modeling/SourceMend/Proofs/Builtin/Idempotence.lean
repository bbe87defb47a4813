import SourceMend.Proofs.Builtin.Assertions
import SourceMend.Proofs.Builtin.Assignments
import SourceMend.Proofs.Builtin.Casts
import SourceMend.Proofs.Builtin.Parameters
import SourceMend.Proofs.Step.Pass

/-!
# Passes of the built-in steps

A pass of the built-in steps leaves a text on which another pass changes nothing, unless an optional
assignment assigns the object of another one.  In any case only the rule for optional assignments
has something left to do in a second pass, and a third pass changes nothing.
-/

namespace SourceMend.Catalog.Builtin

open Pattern Rule Unicode

variable {on : Subject} {s : Text} {L : Text → Prop}

/-! ## What every rule looks for -/

/-- The rules after those of the first step, with the parts that they look for.  What the rule for
route handlers looks for is part of what the next rule looks for. -/
def laterChecks : List Check := [
  { rule := promiseResolve, parts := Calls ["resolve".toList] },
  { rule := promiseStatic, parts := Calls statics },
  { rule := repeatedCast, parts := Casts, before := [' '], after := [' '] },
  { rule := stackedBangs, parts := Bangs },
  { rule := angleAssertion, parts := Angles },
  { rule := routeParameters, parts := fun _ => False },
  { rule := arrowParameters, parts := Arrows },
  { rule := catchBinding, parts := Catches }]

/-- The rules with the parts that they look for, with `L` for the rule for optional assignments. -/
def checks (L : Text → Prop) : List Check :=
  { rule := trailingBlanks, parts := Blanked, after := ['\n'] }
    :: { rule := semicolons, parts := Doubled, after := ['\n'] }
    :: { rule := optionalAssignment, parts := L } :: laterChecks

/-- The steps after the first. -/
def laterSteps : List Step := [promisePatternsStep, typeAssertionsStep, missingTypesStep]

theorem rules_checks (L : Text → Prop) : (checks L).map Check.rule = steps.flatMap Step.rules := rfl

theorem rules_laterChecks : laterChecks.map Check.rule = laterSteps.flatMap Step.rules := rfl

theorem regular_arrowParameters : arrowParameters.Regular := by
  refine ⟨by decide, by decide, fun s => ?_⟩
  cases h : arrowParameters.apply s with
  | ok e => exact ⟨e, rfl⟩
  | error f =>
    obtain ⟨pre, mid, post, gs, reason, hchosen, hreason⟩ := exists_of_apply_eq_error h
    obtain ⟨t, ht⟩ := exists_replacement_arrowParameters hchosen.spans pre.length (pre ++ mid).length
    rw [hreason] at ht
    cases ht

theorem regular_checks (L : Text → Prop) : ∀ c ∈ checks L, c.rule.Regular := by
  simp only [checks, laterChecks, List.forall_mem_cons, List.not_mem_nil, false_implies, implies_true,
    and_true]
  refine ⟨?_, ?_, ?_, ?_, ?_, ?_, ?_, ?_, ?_, regular_arrowParameters, ?_⟩
  all_goals exact regular_of_transform (by decide) (by decide) fun m => ⟨_, rfl⟩

/-- The rules of the first step. -/
theorem regular_basicSyntax :
    trailingBlanks.Regular ∧ semicolons.Regular ∧ optionalAssignment.Regular := by
  have h := regular_checks fun _ => False
  obtain ⟨htrailing, h⟩ := List.forall_mem_cons.1 h
  obtain ⟨hsemicolons, h⟩ := List.forall_mem_cons.1 h
  exact ⟨htrailing, hsemicolons, (List.forall_mem_cons.1 h).1⟩

theorem regular_steps : ∀ step ∈ steps, ∀ r ∈ step.rules, r.Regular := by
  intro step hstep r hr
  have hmem : r ∈ (checks Chains).map Check.rule :=
    rules_checks Chains ▸ List.mem_flatMap.2 ⟨step, hstep, hr⟩
  obtain ⟨c, hc, rfl⟩ := List.mem_map.1 hmem
  exact regular_checks Chains c hc

/-! ## What the rules do not make -/

theorem avoids_of_debris (hL : ∀ {o}, L o → Debris o) : ∀ c ∈ laterChecks, c.rule.Avoids L := by
  simp only [laterChecks, List.forall_mem_cons, List.not_mem_nil, false_implies, implies_true, and_true]
  exact ⟨keeps_debris_of_promiseResolve hL, keeps_debris_of_promiseStatic hL,
    keeps_debris_of_repeatedCast hL, keeps_debris_of_stackedBangs hL,
    keeps_debris_of_angleAssertion hL, keeps_debris_of_routeParameters hL,
    keeps_debris_of_arrowParameters hL, keeps_debris_of_catchBinding hL⟩

theorem avoids_of_aside (hL : Aside L) : ∀ c ∈ laterChecks.drop 4, c.rule.Avoids L := by
  simp only [laterChecks, List.drop, List.forall_mem_cons, List.not_mem_nil, false_implies,
    implies_true, and_true]
  exact ⟨hL.keeps_of_angleAssertion, hL.keeps_of_routeParameters, hL.keeps_of_arrowParameters,
    hL.keeps_of_catchBinding⟩

theorem avoids_of_linked (hL : ∀ {o}, L o → ∃ x y d, Linked x y d o) :
    ∀ c ∈ laterChecks, c.rule.Avoids L := by
  have hbang {o : Text} (ho : L o) : '!' ∉ o.tail.dropLast := by
    obtain ⟨x, y, d, h⟩ := hL ho
    exact h.not_mem '!' (by decide)
  have hresolve {pre mid post t : Text} (h : promiseResolve.Replaces pre mid post t) :
      Keeps L mid t := by
    obtain ⟨⟨x, hx⟩, rfl⟩ := replaces_promiseResolve h
    exact keeps_linked_of_call hL (by decide) hx
  have hstatic {pre mid post t : Text} (h : promiseStatic.Replaces pre mid post t) :
      Keeps L mid t := by
    obtain ⟨x, f, hf, hx, rfl⟩ := replaces_promiseStatic h
    exact keeps_linked_of_call hL (List.mem_cons_of_mem _ hf) hx
  exact List.forall_mem_cons.2 ⟨hresolve, List.forall_mem_cons.2 ⟨hstatic, List.forall_mem_cons.2
    ⟨keeps_linked_of_repeatedCast hL, List.forall_mem_cons.2 ⟨keeps_of_stackedBangs hbang,
      avoids_of_aside (aside_of_linked hL)⟩⟩⟩⟩

theorem avoids_of_calls {fs : List Text} (hfs : ∀ f ∈ fs, f ∈ functions) :
    ∀ c ∈ laterChecks.drop 1, c.rule.Avoids (Calls fs) := by
  have hstatic {pre mid post t : Text} (h : promiseStatic.Replaces pre mid post t) :
      Keeps (Calls fs) mid t := by
    obtain ⟨x, f, hf, hx, rfl⟩ := replaces_promiseStatic h
    exact keeps_calls_of_call hfs (List.mem_cons_of_mem _ hf)
  exact List.forall_mem_cons.2 ⟨hstatic, List.forall_mem_cons.2 ⟨keeps_calls_of_repeatedCast hfs,
    List.forall_mem_cons.2 ⟨keeps_calls_of_stackedBangs hfs, avoids_of_aside (aside_calls hfs)⟩⟩⟩

/-- No rule makes what the rules before it look for. -/
theorem avoids_checks (hL : ∀ {o}, L o → ∃ x y d, Linked x y d o) :
    (checks L).Pairwise fun c d => d.rule.Avoids c.parts := by
  have hstatics : ∀ c ∈ laterChecks.drop 2, c.rule.Avoids (Calls statics) := fun c hc =>
    avoids_of_calls (fun f => List.mem_cons_of_mem _) c (List.mem_cons_of_mem _ hc)
  have hcasts : ∀ c ∈ laterChecks.drop 3, c.rule.Avoids Casts :=
    List.forall_mem_cons.2 ⟨keeps_of_stackedBangs fun h => h.not_mem (by decide),
      avoids_of_aside aside_casts⟩
  have hangles : ∀ c ∈ laterChecks.drop 5, c.rule.Avoids Angles := fun c hc =>
    avoids_of_aside aside_angles c (List.mem_cons_of_mem _ hc)
  have hlater : laterChecks.Pairwise fun c d => d.rule.Avoids c.parts := by
    simp only [laterChecks, List.pairwise_cons]
    exact ⟨avoids_of_calls (by decide), hstatics, hcasts, avoids_of_aside aside_bangs, hangles,
      fun c _ => fun _ u v _ o ho => ho.elim,
      List.forall_mem_singleton.2 keeps_arrows_of_catchBinding, nofun, .nil⟩
  have hblanked : ∀ c ∈ (checks L).drop 1, c.rule.Avoids Blanked :=
    List.forall_mem_cons.2 ⟨keeps_blanked_of_semicolons, List.forall_mem_cons.2
      ⟨keeps_debris_of_optionalAssignment Blanked.debris, avoids_of_debris Blanked.debris⟩⟩
  have hdoubled : ∀ c ∈ (checks L).drop 2, c.rule.Avoids Doubled :=
    List.forall_mem_cons.2
      ⟨keeps_debris_of_optionalAssignment Doubled.debris, avoids_of_debris Doubled.debris⟩
  exact .cons hblanked (.cons hdoubled (.cons (avoids_of_linked hL) hlater))

/-- The rule for optional assignments makes nothing that the rules after it look for. -/
theorem avoids_of_optionalAssignment : ∀ c ∈ laterChecks, optionalAssignment.Avoids c.parts := by
  have hangles {o : Text} (ho : Angles o) : '!' ∉ o := by
    obtain ⟨a, n, e, b, hmid⟩ := ho
    have hinner := hmid.not_mem (c := '!') (by decide)
    obtain ⟨y, rfl⟩ := hmid.ends
    simpa using hinner
  have harrows {o : Text} (ho : Arrows o) : '!' ∉ o := by
    obtain ⟨a, l, b, c, hmid⟩ := ho
    obtain ⟨y, rfl, hy⟩ := hmid.ends
    simp [hy '!' (by decide)]
  have hcatches {o : Text} (ho : Catches o) : '!' ∉ o := by
    obtain ⟨a, b, n, c, hmid⟩ := ho
    obtain ⟨y, rfl, -, hy⟩ := hmid.ends
    simp [hy '!' (by decide)]
  simp only [laterChecks, List.forall_mem_cons, List.not_mem_nil, false_implies, implies_true, and_true]
  exact ⟨keeps_calls_of_optionalAssignment (by decide),
    keeps_calls_of_optionalAssignment fun f => List.mem_cons_of_mem _,
    keeps_casts_of_optionalAssignment, keeps_bangs_of_optionalAssignment,
    keeps_of_optionalAssignment hangles, fun _ u v _ o ho => ho.elim,
    keeps_of_optionalAssignment harrows, keeps_of_optionalAssignment hcatches⟩

/-! ## What the rules leave none of -/

theorem free_of_avoids {r : Rule} {out : Text} {fixes : Nat} (hr : r.Avoids L)
    (h : Rewrites r [] s out fixes) (hfree : Free L s) : Free L out := by
  simpa using h.free hr (u := []) (v := []) (by simpa using hfree)

theorem passed_iff {r : Rule} : Check.Passed { rule := r, parts := L } s ↔ Free L s := by
  simp [Check.Passed]

theorem passed_checks {I : Text → Prop}
    (hL : ∀ {s out fixes}, I s → Rewrites optionalAssignment [] s out fixes → Free L out) :
    ∀ c ∈ checks L, ∀ {s out fixes}, I s → Rewrites c.rule [] s out fixes → c.Passed out := by
  simp only [checks, laterChecks, List.forall_mem_cons, List.not_mem_nil, false_implies, implies_true,
    and_true]
  exact ⟨fun _ => free_blanked, fun _ => free_doubled, fun hI h => passed_iff.2 (hL hI h),
    fun _ h => passed_iff.2 (free_resolves h), fun _ h => passed_iff.2 (free_statics h),
    fun _ => free_casts, fun _ h => passed_iff.2 (free_bangs h),
    fun _ h => passed_iff.2 (free_angles h), fun _ _ => passed_iff.2 fun _ ho => ho.elim,
    fun _ h => passed_iff.2 (free_arrows h), fun _ h => passed_iff.2 (free_catches h)⟩

/-- No rule makes a chain of optional assignments. -/
theorem chains_checks : ∀ c ∈ checks L, ∀ {s out fixes}, Free Chains s →
    Rewrites c.rule [] s out fixes → Free Chains out :=
  List.forall_mem_cons.2 ⟨fun hfree h => free_chains_of_trailingBlanks h hfree,
    List.forall_mem_cons.2
      ⟨fun hfree h => free_of_avoids (keeps_linked_of_semicolons Chains.linked) h hfree,
      List.forall_mem_cons.2 ⟨fun _ h => free_chains h, fun c hc _ _ _ hfree h =>
        free_of_avoids (avoids_of_linked Chains.linked c hc) h hfree⟩⟩⟩

/-! ## Rules that match nowhere -/

theorem settled_promisePatterns
    (h : ∀ c ∈ laterChecks.take 2, c.rule.accepts on = true → c.Passed s) :
    ∀ r ∈ promisePatternsStep.rules, r.accepts on = true → r.Settled s := by
  simp only [laterChecks, List.take, List.forall_mem_cons, List.not_mem_nil, false_implies,
    implies_true, and_true, passed_iff] at h
  obtain ⟨hresolves, hstatics⟩ := h
  exact List.forall_mem_cons.2 ⟨fun h => finds_resolves.settled (hresolves h),
    List.forall_mem_singleton.2 fun h => finds_statics.settled (hstatics h)⟩

theorem settled_typeAssertions
    (h : ∀ c ∈ (laterChecks.drop 2).take 3, c.rule.accepts on = true → c.Passed s) :
    ∀ r ∈ typeAssertionsStep.rules, r.accepts on = true → r.Settled s := by
  simp only [laterChecks, List.drop, List.take, List.forall_mem_cons, List.not_mem_nil,
    false_implies, implies_true, and_true, passed_iff] at h
  obtain ⟨hcasts, hbangs, hangles⟩ := h
  exact List.forall_mem_cons.2 ⟨fun h a b hab => not_starts_of_free (hab ▸ hcasts h),
    List.forall_mem_cons.2 ⟨fun h => finds_bangs.settled (hbangs h),
      List.forall_mem_singleton.2 fun h => finds_angles.settled (hangles h)⟩⟩

theorem settled_missingTypes
    (h : ∀ c ∈ laterChecks.drop 5, c.rule.accepts on = true → c.Passed s) :
    ∀ r ∈ missingTypesStep.rules, r.accepts on = true → r.Settled s := by
  simp only [laterChecks, List.drop, List.forall_mem_cons, List.not_mem_nil, false_implies,
    implies_true, and_true, passed_iff] at h
  obtain ⟨-, harrows, hcatches⟩ := h
  -- the rule after the one for route handlers is for every file that that one is for
  have hroute (h : routeParameters.accepts on = true) : arrowParameters.accepts on = true :=
    (Bool.and_eq_true_iff.1 h).2
  exact List.forall_mem_cons.2
    ⟨fun h => settled_of_free (harrows (hroute h)) arrowParameters_of_routeParameters,
      List.forall_mem_cons.2 ⟨fun h => finds_arrows.settled (harrows h),
        List.forall_mem_singleton.2 fun h => finds_catches.settled (hcatches h)⟩⟩

/-- The rules after those of the first step match nowhere in a text without the parts that they look
for. -/
theorem settled_later (h : ∀ c ∈ laterChecks, c.rule.accepts on = true → c.Passed s) :
    ∀ r ∈ laterChecks.map Check.rule, r.accepts on = true → r.Settled s := by
  have hparts : laterChecks.map Check.rule
      = promisePatternsStep.rules ++ (typeAssertionsStep.rules ++ missingTypesStep.rules) := rfl
  rw [hparts, List.forall_mem_append, List.forall_mem_append]
  exact ⟨settled_promisePatterns fun c hc => h c (List.mem_of_mem_take hc),
    settled_typeAssertions fun c hc => h c (List.mem_of_mem_drop (List.mem_of_mem_take hc)),
    settled_missingTypes fun c hc => h c (List.mem_of_mem_drop hc)⟩

/-! ## Passes -/

theorem passed_textAfter (on : Subject) {I : Text → Prop}
    (hlinked : ∀ {o}, L o → ∃ x y d, Linked x y d o)
    (hL : ∀ {s out fixes}, I s → Rewrites optionalAssignment [] s out fixes → Free L out)
    (hI : ∀ c ∈ checks L, ∀ {s out fixes}, I s → Rewrites c.rule [] s out fixes → I out) (h : I s) :
    ∀ c ∈ checks L, c.rule.accepts on = true → c.Passed (Step.textAfter on steps s) := by
  rw [Step.textAfter_eq, ← rules_checks L]
  exact Check.passed_foldl (regular_checks L) (avoids_checks hlinked) (passed_checks hL) hI h

/-- After a step whose rules are some of the built-in ones in their order, there are none of the parts
that its rules look for, apart from optional assignments. -/
theorem passed_apply {step : Step} {cs : List Check} (hcs : cs.Sublist (checks fun _ => False))
    (hrules : cs.map Check.rule = step.rules) (on : Subject) (s : Text) :
    ∀ c ∈ cs, c.rule.accepts on = true → c.Passed (step.apply on s).text := by
  have htext : (step.apply on s).text = (cs.map Check.rule).foldl (Rule.next on) s :=
    hrules ▸ Step.text_foldl step.rules
  rw [htext]
  exact Check.passed_foldl (I := fun _ => True) (fun c hc => regular_checks _ c (hcs.subset hc))
    ((avoids_checks False.elim).sublist hcs)
    (fun c hc => passed_checks (I := fun _ => True) (fun _ _ _ ho => ho.elim) c (hcs.subset hc))
    (fun _ _ _ _ _ _ _ => trivial) trivial

/-- After a pass on a text without chains of optional assignments, another pass changes nothing. -/
theorem untouched_of_free_chains (h : Free Chains s) :
    ∀ x ∈ Step.pass on steps (Step.textAfter on steps s), Step.Untouched ⟨x.1, ∅, []⟩ x.2 := by
  refine Step.untouched_pass regular_steps fun step hstep r hr => ?_
  have hpassed := passed_textAfter on Assignments.linked
    (fun hfree h => free_assignments h hfree) chains_checks h
  obtain ⟨hblanked, hpassed⟩ := List.forall_mem_cons.1 hpassed
  obtain ⟨hdoubled, hpassed⟩ := List.forall_mem_cons.1 hpassed
  obtain ⟨hassignments, hpassed⟩ := List.forall_mem_cons.1 hpassed
  have hall : ∀ r ∈ (checks Assignments).map Check.rule, r.accepts on = true →
      r.Settled (Step.textAfter on steps s) :=
    List.forall_mem_cons.2 ⟨fun h => settled_trailingBlanks (hblanked h), List.forall_mem_cons.2
      ⟨fun h => settled_semicolons (hdoubled h), List.forall_mem_cons.2
        ⟨fun h => settled_optionalAssignment (passed_iff.1 (hassignments h)), settled_later hpassed⟩⟩⟩
  exact hall r (rules_checks Assignments ▸ List.mem_flatMap.2 ⟨step, hstep, hr⟩)

/-- What every pass leaves. -/
theorem passed_chains (on : Subject) (s : Text) :
    ∀ c ∈ checks Chains, c.rule.accepts on = true → c.Passed (Step.textAfter on steps s) :=
  passed_textAfter on (I := fun _ => True) Chains.linked (fun _ h => free_chains h)
    (fun _ _ _ _ _ _ _ => trivial) trivial

/-- In a second pass, only the rule for optional assignments makes a fix. -/
theorem count_second (on : Subject) (s : Text) :
    ∀ x ∈ Step.pass on steps (Step.textAfter on steps s),
      ∀ k ≠ optionalAssignment.name, x.2.counts.get k = 0 := by
  have hpassed := passed_chains on s
  obtain ⟨htrailing, hsemicolons, hoptional⟩ := regular_basicSyntax
  generalize Step.textAfter on steps s = s at hpassed ⊢
  obtain ⟨hblanked, hpassed⟩ := List.forall_mem_cons.1 hpassed
  obtain ⟨hdoubled, hpassed⟩ := List.forall_mem_cons.1 hpassed
  obtain ⟨-, hpassed⟩ := List.forall_mem_cons.1 hpassed
  have hfirst : Step.Untouched ⟨s, ∅, []⟩ (Step.applyRule on ⟨s, ∅, []⟩ trailingBlanks) :=
    Step.untouched_of_settled on htrailing fun h => settled_trailingBlanks (hblanked h)
  have hsecond := hfirst.trans (Step.untouched_of_settled on hsemicolons fun h =>
    hfirst.text ▸ settled_semicolons (hdoubled h))
  have htext : (basicSyntaxStep.apply on s).text = optionalAssignment.next on s :=
    (Step.text_applyRule on _ optionalAssignment).trans (by rw [hsecond.text])
  refine List.forall_mem_cons.2 ⟨fun k hk => ?_, fun x hx k _ => ?_⟩
  · exact (Step.count_applyRule on hk).trans (hsecond.count k)
  · rw [htext] at hx
    have hlater : ∀ c ∈ laterChecks, c.rule.accepts on = true →
        c.Passed (optionalAssignment.next on s) := fun c hc haccepts =>
      hoptional.free_next (avoids_of_optionalAssignment c hc) (hpassed c hc haccepts)
    refine (Step.untouched_pass (fun step hstep => regular_steps step (List.mem_cons_of_mem _ hstep))
      (fun step hstep r hr => settled_later hlater r ?_) x hx).count k
    exact rules_laterChecks ▸ List.mem_flatMap.2 ⟨step, hstep, hr⟩

/-- A second pass of the built-in steps makes no fix but those of the rule for optional assignments,
and none at all on a text in which no optional assignment assigns a one-character object of another
one.  A third pass makes none on any text. -/
theorem builtin_settles (on : Subject) (s : Text) :
    ∃ c, builtin = .ok c
      ∧ (Free Chains s → Step.Idle (Step.pass on c.steps (Step.textAfter on c.steps s)))
      ∧ (∀ x ∈ Step.pass on c.steps (Step.textAfter on c.steps s),
          ∀ k ≠ optionalAssignment.name, x.2.counts.get k = 0)
      ∧ Step.Idle (Step.pass on c.steps (Step.textAfter on c.steps (Step.textAfter on c.steps s))) := by
  have hidle {s : Text} (h : Free Chains s) :
      Step.Idle (Step.pass on steps (Step.textAfter on steps s)) := fun x hx =>
    have huntouched := untouched_of_free_chains h x hx
    ⟨huntouched.total, huntouched.text⟩
  have hchains : Free Chains (Step.textAfter on steps s) := by
    obtain ⟨-, hpassed⟩ := List.forall_mem_cons.1 (passed_chains on s)
    obtain ⟨-, hpassed⟩ := List.forall_mem_cons.1 hpassed
    exact passed_iff.1 ((List.forall_mem_cons.1 hpassed).1 rfl)
  exact ⟨⟨steps⟩, builtin_eq, hidle, count_second on s, hidle hchains⟩

/-- A second pass finds the assignment to the object that the first one has taken as a value. -/
theorem second_pass_fixes :
    ∃ c, builtin = .ok c ∧ ¬ Step.Idle (Step.pass ⟨⟨"a.ts"⟩, ⟨"a.ts"⟩, none⟩ c.steps
      (Step.textAfter ⟨⟨"a.ts"⟩, ⟨"a.ts"⟩, none⟩ c.steps "a?.b=c?.d=e\n".toList)) :=
  ⟨⟨steps⟩, builtin_eq, by decide +kernel⟩

end SourceMend.Catalog.Builtin
