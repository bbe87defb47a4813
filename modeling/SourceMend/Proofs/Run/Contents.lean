import SourceMend.Proofs.Run.Order
import SourceMend.Proofs.Run.Zeros
import SourceMend.Proofs.Step.Pass

/-!
# What files hold after a run

Some steps leave of a file the bytes of its text after a pass, or the bytes that
it holds if it cannot be opened or these are no text (`bytesAfter`).  A run that
writes leaves these bytes of every candidate, whether it overwrites the file or not,
unless some file could not be copied (`read_run`).  A text is read back from its
bytes, so two passes one after the other leave what one pass of all their steps
leaves (`bytesAfter_append`).
-/

namespace SourceMend

/-! ## Texts and their bytes -/

namespace Text.Utf8

variable {bytes : ByteArray} {s : String}

theorem decode_toUTF8 (s : String) : decode s.toUTF8 = .ok s := by
  have hvalid : String.fromUTF8? s.toUTF8 = some s := dif_pos s.isValidUTF8
  rw [decode, hvalid]

theorem toUTF8_of_decode (h : decode bytes = .ok s) : s.toUTF8 = bytes := by
  unfold decode String.fromUTF8? at h
  split at h
  · next s' hs =>
    cases h
    split at hs
    · cases hs
      rfl
    · cases hs
  · cases h

end Text.Utf8

/-! ## Two passes -/

theorem Step.textAfter_append (on : Subject) (as bs : List Step) (s : Text) :
    textAfter on (as ++ bs) s = textAfter on bs (textAfter on as s) :=
  List.foldl_append

namespace Run

variable {on on' : Subject} {steps : List Step} {text : Text}

/-- A step that is skipped would leave the text as it is, so the text is that of a pass. -/
theorem text_mend (steps : List Step) (on : Subject) (text : Text) :
    (mend steps on text).outcome.text = Step.textAfter on steps text := by
  have hadvance (s : Step) (p : Progress) :
      (advance on p s).outcome.text = (s.apply on p.outcome.text).text := by
    unfold advance
    split
    · next hskips => rw [apply_of_skips hskips]
    · rfl
  have hfold (steps : List Step) (p : Progress) :
      (steps.foldl (advance on) p).outcome.text = Step.textAfter on steps p.outcome.text := by
    induction steps generalizing p with
    | nil => rfl
    | cons s steps ih =>
      rw [List.foldl_cons, ih, hadvance]
      rfl
  exact hfold steps _

theorem before_mend (steps : List Step) (on : Subject) (text : Text) :
    (mend steps on text).outcome.before = text := by
  let P (p : Progress) : Prop := p.outcome.before = text
  have hadvance : ∀ p, P p → ∀ s ∈ steps, P (advance on p s) := by
    intro p hp s _
    unfold advance
    split
    · exact hp
    · exact hp
  have hstart : P ⟨⟨text, text, ∅, ∅⟩, []⟩ := rfl
  exact List.foldlRecOn (motive := P) steps (advance on) hstart hadvance

theorem textAfter_congr (h : Subject.Agree (Step.mentionedBy steps) on on') (text : Text) :
    Step.textAfter on steps text = Step.textAfter on' steps text := by
  rw [← text_mend, ← text_mend, mend_congr h]

/-- The bytes that some steps leave of a file.  They leave those of a file that cannot be opened. -/
def bytesAfter (on : Subject) (steps : List Step) (bytes : ByteArray) : ByteArray :=
  match Tree.permit on.full, Text.Utf8.decode bytes with
  | .ok _, .ok before => (String.ofList (Step.textAfter on steps before.toList)).toUTF8
  | _, _ => bytes

theorem bytesAfter_append (on : Subject) (as bs : List Step) (bytes : ByteArray) :
    bytesAfter on (as ++ bs) bytes = bytesAfter on bs (bytesAfter on as bytes) := by
  unfold bytesAfter
  cases hpermit : Tree.permit on.full with
  | error f => rfl
  | ok _ =>
    cases hdecode : Text.Utf8.decode bytes with
    | error f => simp only [hdecode]
    | ok before =>
      simp only [Text.Utf8.decode_toUTF8, String.toList_ofList, Step.textAfter_append]

theorem bytesAfter_congr (h : Subject.Agree (Step.mentionedBy steps) on on') (bytes : ByteArray) :
    bytesAfter on steps bytes = bytesAfter on' steps bytes := by
  simp only [bytesAfter, textAfter_congr h, h.full]

/-! ## After all files -/

variable {job : Job} {t : Tree} {p : Path} {ps : List Path} {bytes : ByteArray}

/-- The steps leave the bytes of a file that they cannot read. -/
theorem bytesAfter_of_examine_error {f : Fault} (hread : t.read p = .ok bytes)
    (h : examine job t p = .error f) : bytesAfter (job.subject t p) job.steps bytes = bytes := by
  have hfull : (job.subject t p).full = p := rfl
  rw [bytesAfter, hfull]
  split
  · next hpermit hdecode =>
    have hload : t.load p = .ok bytes := Tree.load_eq_ok.2 ⟨hpermit, hread⟩
    simp [examine, hload, hdecode, bind, Except.bind, pure, Except.pure] at h
  · rfl

/-- A candidate that can be copied holds what the steps leave of it. -/
theorem read_processAll (hwet : job.config.dryRun = false) (hfiles : t.DistinctFiles ps)
    (hp : p ∈ ps) (herrors : ∀ e ∈ (processAll job t ps).1.errors, e.isUncopied = false)
    (hread : t.read p = .ok bytes) :
    (processAll job t ps).2.read p = .ok (bytesAfter (job.subject t p) job.steps bytes) := by
  cases hexamine : examine job t p with
  | error f =>
    have hnot : ∀ new, ¬Changes job t p new := by
      rintro new ⟨-, bytes', progress, hok, -, -⟩
      rw [hexamine] at hok
      cases hok
    rw [read_of_not_changes hfiles hp hnot, hread, bytesAfter_of_examine_error hread hexamine]
  | ok x =>
    obtain ⟨bytes', progress⟩ := x
    obtain ⟨hload, before, hdecode, rfl⟩ := examine_eq_ok hexamine
    obtain ⟨hpermit, hread'⟩ := Tree.load_eq_ok.1 hload
    obtain rfl : bytes = bytes' := Except.ok.inj (hread.symm.trans hread')
    have hafter : bytesAfter (job.subject t p) job.steps bytes
        = (mend job.steps (job.subject t p) before.toList).newBytes := by
      have hfull : Tree.permit (job.subject t p).full = .ok () := hpermit
      rw [bytesAfter, hfull, hdecode, Progress.newBytes, text_mend]
    by_cases hm : (mend job.steps (job.subject t p) before.toList).outcome.modified = true
    · have hchanges : Changes job t p _ := ⟨hwet, _, _, hexamine, hm, rfl⟩
      rw [read_of_changes hfiles hchanges (copied_of_errors hfiles hp herrors _ hchanges), hafter]
    · have hsame : (mend job.steps (job.subject t p) before.toList).outcome.text
          = before.toList := by
        simpa [Outcome.modified, before_mend] using hm
      have hnot : ∀ new, ¬Changes job t p new := by
        rintro new ⟨-, bytes', progress, hok, hm', -⟩
        rw [hexamine] at hok
        cases hok
        exact hm hm'
      rw [read_of_not_changes hfiles hp hnot, hread, hafter, Progress.newBytes, hsame,
        String.ofList_toList, Text.Utf8.toUTF8_of_decode hdecode]

/-! ## After a run -/

variable {catalog : Catalog} {checker? : Option Checker} {config : RunConfig} {r : Result}

/-- How the rules of some steps see a candidate, as far as they can tell. -/
structure View (t : Tree) (checker? : Option Checker) (target p : Path) (steps : List Step)
    (on : Subject) : Prop where
  /-- The path as seen from the target. -/
  rel : on.rel = (p.stripPrefix? (baseOf t target)).getD p
  /-- The path. -/
  full : on.full = p
  /-- Of the mentioned codes those that are outstanding. -/
  codes : ∀ code ∈ Step.mentionedBy steps,
    code ∈ on.codes.getD [] ↔ Outstanding t checker? p code

/-- After a run that writes a candidate holds what the selected steps leave of it, unless some file
could not be copied. -/
theorem read_run (h : run catalog checker? config false t = .ok r) (hwet : config.dryRun = false)
    (hp : p ∈ t.discover config.target config.extensions config.excluded)
    (herrors : ∀ e ∈ r.stats.errors, e.isUncopied = false) (hread : t.read p = .ok bytes) :
    ∃ steps on, catalog.select config.steps = .ok steps
      ∧ View t checker? config.target p steps on
      ∧ r.tree.read p = .ok (bytesAfter on steps bytes) := by
  obtain ⟨plan, hplan, rfl⟩ := run_eq_ok h
  obtain ⟨hselect, hbase, hindex⟩ := plan_job hplan
  obtain ⟨hfiles, hconfig⟩ := plan_eq_ok hplan
  have hview : View t checker? config.target p plan.job.steps (plan.job.subject t p) :=
    ⟨by rw [← hbase]; rfl, rfl, fun code hcode => hindex p code hcode⟩
  have herrors' : ∀ e ∈ (processAll plan.job t plan.files).1.errors, e.isUncopied = false :=
    fun e he => herrors e ((List.mergeSort_perm _ _).mem_iff.2 he)
  have hp' : p ∈ plan.files := hfiles ▸ hp
  have hwet' : plan.job.config.dryRun = false := hconfig ▸ hwet
  exact ⟨plan.job.steps, plan.job.subject t p, hselect, hview,
    read_processAll hwet' (distinctFiles_of_plan hplan false) hp' herrors' hread⟩

end Run

end SourceMend
