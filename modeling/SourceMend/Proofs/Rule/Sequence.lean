import SourceMend.Proofs.Rule.Absence
import SourceMend.Step

/-!
# Rules one after another

If every rule leaves none of what it looks for, and no rule makes any of what the rules before it
look for, then a text is without all of it after the last rule (`passed_foldl`).
-/

namespace SourceMend.Rule

open Pattern

variable {r : Rule} {rs : List Rule} {on : Subject} {s : Text}

/-! ## Rules that match nowhere -/

/-- Whether a rule matches nowhere in a text. -/
def Settled (r : Rule) (s : Text) : Prop := ∀ a b, s = a ++ b → ¬ Starts r.pattern.node a b

/-- Whether the matches of a rule have a character, and none of them is refused. -/
structure Regular (r : Rule) : Prop where
  orderly : r.pattern.node.orderly = true
  least : 0 < r.pattern.node.least
  total : ∀ s, ∃ e, r.apply s = .ok e

theorem Regular.apply_of_settled (hr : r.Regular) (h : r.Settled s) : r.apply s = .ok (s, 0) := by
  have hscans := scans_matches hr.orderly hr.least s
  unfold apply replacements
  generalize r.pattern.matches s = ms at hscans ⊢
  cases hscans with
  | nothing => rfl
  | @after _ gap mid post gs ms _ hchosen =>
    exact absurd ⟨mid, post, gs, rfl, hchosen.spans⟩ (h gap (mid ++ post) rfl)

theorem settled_of_free {L : Text → Prop} (hfree : Free L s)
    (hL : ∀ {pre mid post gs}, NodeSpans r.pattern.node pre mid post gs → L mid) : r.Settled s := by
  rintro a b rfl ⟨mid, post, gs, rfl, h⟩
  exact hfree mid (hL h) ⟨a, post, by simp⟩

theorem Finds.settled {L : Text → Prop} (h : r.Finds L) (hfree : Free L s) : r.Settled s :=
  settled_of_free hfree fun hspans => h.1 ⟨_, hspans⟩

/-- A rule that has no function to compute replacements refuses no match. -/
theorem regular_of_transform (horderly : r.pattern.node.orderly = true)
    (hleast : 0 < r.pattern.node.least)
    (htransform : ∀ m, ∃ t, r.transform.replacement r.pattern m = .ok t) : r.Regular := by
  refine ⟨horderly, hleast, fun s => ?_⟩
  cases h : r.apply s with
  | ok e => exact ⟨e, rfl⟩
  | error f =>
    obtain ⟨pre, mid, post, gs, reason, -, hreason⟩ := exists_of_apply_eq_error h
    obtain ⟨t, ht⟩ := htransform ⟨pre.length, (pre ++ mid).length, mid, gs⟩
    rw [hreason] at ht
    cases ht

/-! ## Sequences -/

/-- Whether a rule is for a file. -/
def accepts (on : Subject) (r : Rule) : Bool := r.acceptsPath on.rel on.full && r.acceptsCodes on.codes

/-- The text of a file after a rule. -/
def next (on : Subject) (s : Text) (r : Rule) : Text :=
  if r.accepts on then
    match r.apply s with
    | .ok (t, _) => t
    | .error _ => s
  else s

theorem next_of_not_accepts (h : r.accepts on = false) : r.next on s = s := by
  simp [next, h]

theorem Regular.rewrites (hr : r.Regular) (h : r.accepts on = true) (s : Text) :
    ∃ fixes, Rewrites r [] s (r.next on s) fixes := by
  obtain ⟨⟨t, fixes⟩, ht⟩ := hr.total s
  refine ⟨fixes, ?_⟩
  simpa [next, h, ht] using rewrites_of_apply hr.orderly hr.least ht

variable {L : Text → Prop} {p q : Text}

theorem Regular.free_next (hr : r.Regular) (hkeeps : r.Avoids L)
    (h : Free L (p ++ (s ++ q))) : Free L (p ++ (r.next on s ++ q)) := by
  cases haccepts : r.accepts on with
  | false => rwa [next_of_not_accepts haccepts]
  | true =>
    obtain ⟨fixes, hrewrites⟩ := hr.rewrites haccepts s
    exact hrewrites.free hkeeps h

theorem free_foldl (hrs : ∀ r ∈ rs, r.Regular)
    (hkeeps : ∀ r ∈ rs, r.Avoids L)
    (h : Free L (p ++ (s ++ q))) : Free L (p ++ (rs.foldl (next on) s ++ q)) := by
  induction rs generalizing s with
  | nil => exact h
  | cons r rs ih =>
    obtain ⟨hr, hrs⟩ := List.forall_mem_cons.1 hrs
    obtain ⟨hkeepsr, hkeeps⟩ := List.forall_mem_cons.1 hkeeps
    exact ih hrs hkeeps (hr.free_next hkeepsr h)

/-- A rule with the parts that it looks for, in a text between two others. -/
structure Check where
  rule : Rule
  parts : Text → Prop
  before : Text := []
  after : Text := []

namespace Check

/-- Whether a text has none of the parts. -/
def Passed (c : Check) (s : Text) : Prop := Free c.parts (c.before ++ (s ++ c.after))

variable {cs : List Check} {I : Text → Prop}

/-- After all rules there are none of the parts that the rules for the file look for.  The parts
need only be gone in texts with the invariant `I`. -/
theorem passed_foldl (hregular : ∀ c ∈ cs, c.rule.Regular)
    (hkeeps : cs.Pairwise fun c d => d.rule.Avoids c.parts)
    (hclears : ∀ c ∈ cs, ∀ {s out fixes}, I s → Rewrites c.rule [] s out fixes → c.Passed out)
    (hI : ∀ c ∈ cs, ∀ {s out fixes}, I s → Rewrites c.rule [] s out fixes → I out) (h : I s) :
    ∀ c ∈ cs, c.rule.accepts on = true → c.Passed ((cs.map rule).foldl (next on) s) := by
  induction cs generalizing s with
  | nil => exact fun c hc => nomatch hc
  | cons d cs ih =>
    obtain ⟨hd, hregular⟩ := List.forall_mem_cons.1 hregular
    obtain ⟨hkeepsd, hkeeps⟩ := List.pairwise_cons.1 hkeeps
    obtain ⟨hcleard, hclears⟩ := List.forall_mem_cons.1 hclears
    obtain ⟨hId, hI⟩ := List.forall_mem_cons.1 hI
    have hnext : I (d.rule.next on s) := by
      cases haccepts : d.rule.accepts on with
      | false => rwa [next_of_not_accepts haccepts]
      | true =>
        obtain ⟨fixes, hrewrites⟩ := hd.rewrites haccepts s
        exact hId h hrewrites
    refine List.forall_mem_cons.2 ⟨fun haccepts => ?_, ih hregular hkeeps hclears hI hnext⟩
    obtain ⟨fixes, hrewrites⟩ := hd.rewrites haccepts s
    have hfree : Free d.parts (d.before ++ (d.rule.next on s ++ d.after)) := hcleard h hrewrites
    rw [List.map_cons, List.foldl_cons]
    refine free_foldl (fun r hr => ?_) (fun r hr => ?_) hfree
    · obtain ⟨c, hc, rfl⟩ := List.mem_map.1 hr
      exact hregular c hc
    · obtain ⟨c, hc, rfl⟩ := List.mem_map.1 hr
      exact hkeepsd c hc

end Check
end SourceMend.Rule
