import SourceMend.Proofs.Run.File
import SourceMend.Proofs.Run.Plan

/-!
# Histories of runs

A history is any finite sequence of runs, each with settings, catalog and checker
of its own.  `history_retains` is its invariant: whatever bytes a file holds at
some moment, some file holds them at every later moment, and a file that exists
stays.  Every step of it is a replacement after a copy (`retains_processFile`),
so a later run may overwrite a copy only after copying it once more.
-/

namespace SourceMend.Run

/-- What a run is asked to do. -/
structure Call where
  /-- The catalog. -/
  catalog : Catalog
  /-- The checker, if there is one. -/
  checker? : Option Checker
  /-- The settings. -/
  config : RunConfig
  /-- Whether the run is cancelled before it starts. -/
  cancelled : Bool

/-- The tree after a run.  A run that cannot take place leaves it as it is. -/
def Call.perform (t : Tree) (c : Call) : Tree :=
  match run c.catalog c.checker? c.config c.cancelled t with
  | .ok r => r.tree
  | .error _ => t

/-- The tree after some runs, one after another. -/
def afterAll (calls : List Call) (t : Tree) : Tree := calls.foldl Call.perform t

theorem retains_perform (t : Tree) (c : Call) : t.Retains (c.perform t) := by
  unfold Call.perform
  split
  · next r h =>
    obtain ⟨p, -, rfl⟩ := run_eq_ok h
    exact retains_processAll p.job t _
  · exact .refl t

theorem retains_afterAll (calls : List Call) (t : Tree) : t.Retains (afterAll calls t) := by
  induction calls generalizing t with
  | nil => exact .refl t
  | cons c calls ih => exact (retains_perform t c).trans (ih _)

/-- Between two moments of a history no content is lost and no file is removed. -/
theorem history_retains (t : Tree) (earlier later : List Call) :
    (∀ l bytes, (afterAll earlier t).get? l = some (.file bytes) →
      ∃ m, (afterAll (earlier ++ later) t).get? m = some (.file bytes))
    ∧ ∀ p, (afterAll earlier t).hasFile p = true →
      (afterAll (earlier ++ later) t).hasFile p = true := by
  have hsplit : afterAll (earlier ++ later) t = afterAll later (afterAll earlier t) :=
    List.foldl_append
  have hretains := retains_afterAll later (afterAll earlier t)
  rw [hsplit]
  exact ⟨hretains.content, fun p hp => hretains.keeps.hasFile hp⟩

end SourceMend.Run
