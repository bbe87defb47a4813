import Mathlib.Data.List.Forall2
import SourceMend.Settings.File

/-!
# What a settings file says

A value says a setting in the field of its name, in a form of its own: a text, a truth value, a
number below a limit, a list, or a record of settings for one purpose.  A field that is missing or
null says nothing.  `Written` puts this together for all settings, and `read_eq_ok_iff` tells that
exactly these settings are read, whatever the format of the value.
-/

namespace SourceMend

namespace Readable

variable {V α β : Type} [Readable V] {read : V → Reading α} {R : V → α → Prop}
  {fs : List (String × V)} {k : String} {v : V} {x : Reading α} {f : α → Reading β} {b : β}

/-- A value that is a text. -/
def IsText (v : V) (s : String) : Prop := text? v = some s

/-- A value that is a truth value. -/
def IsBool (v : V) (b : Bool) : Prop := bool? v = some b

/-- A value that is a natural number below a limit. -/
def IsNat (limit : Nat) (v : V) (n : Nat) : Prop := nat? v = some n ∧ n < limit

/-- A value that is a list with elements of one form. -/
def IsList (R : V → α → Prop) (v : V) (as : List α) : Prop :=
  ∃ items, items? v = some items ∧ List.Forall₂ R items as

/-- What the field of a name says: what its value says, unless it is missing or null. -/
inductive Says (R : V → α → Prop) (fs : List (String × V)) (k : String) : Option α → Prop where
  /-- There is no such field. -/
  | missing : fs.lookup k = none → Says R fs k none
  /-- The field holds no value. -/
  | null {v : V} : fs.lookup k = some v → isNull v = true → Says R fs k none
  /-- The field holds a value. -/
  | value {v : V} {a : α} : fs.lookup k = some v → isNull v = false → R v a → Says R fs k (some a)

/-! ## What the readers read -/

theorem bind_eq_ok_iff : x >>= f = .ok b ↔ ∃ a, x = .ok a ∧ f a = .ok b := by
  cases x <;> simp [bind, Except.bind]

theorem expect_eq_ok_iff {what : String} {a? : Option α} {a : α} :
    expect what a? = .ok a ↔ a? = some a := by
  cases a? <;> simp [expect]

theorem text_eq_ok_iff {s : String} : text v = .ok s ↔ IsText v s := expect_eq_ok_iff

theorem bool_eq_ok_iff {b : Bool} : bool v = .ok b ↔ IsBool v b := expect_eq_ok_iff

theorem nat_eq_ok_iff {limit n : Nat} : nat limit v = .ok n ↔ IsNat limit v n := by
  simp [nat, expect_eq_ok_iff, IsNat, Option.filter_eq_some_iff]

omit [Readable V] in
theorem mapM_eq_ok_iff (hread : ∀ v a, read v = .ok a ↔ R v a) {vs : List V} {as : List α} :
    vs.mapM read = .ok as ↔ List.Forall₂ R vs as := by
  induction vs generalizing as with
  | nil => simp [pure, Except.pure, eq_comm]
  | cons v vs ih =>
    simp only [List.mapM_cons, bind_eq_ok_iff, hread, ih, List.forall₂_cons_left_iff]
    exact exists_congr fun a => ⟨fun ⟨ha, as, has, heq⟩ => ⟨as, ha, has, (Except.ok.inj heq).symm⟩,
      fun ⟨as, ha, has, heq⟩ => ⟨ha, as, has, congrArg _ heq.symm⟩⟩

theorem list_eq_ok_iff (hread : ∀ v a, read v = .ok a ↔ R v a) {as : List α} :
    list read v = .ok as ↔ IsList R v as := by
  simp only [list, bind_eq_ok_iff, expect_eq_ok_iff, mapM_eq_ok_iff hread, IsList]

theorem fields_eq_ok_iff {names : List String} {needed : Nat} :
    fields names needed v = .ok fs ↔ record? names needed v = some fs := expect_eq_ok_iff

theorem optional_eq_ok_iff (hread : ∀ v a, read v = .ok a ↔ R v a) {a? : Option α} :
    optional fs k read = .ok a? ↔ Says R fs k a? := by
  unfold optional
  constructor
  · intro h
    cases hlookup : fs.lookup k with
    | none =>
      rw [hlookup] at h
      obtain rfl := Except.ok.inj h
      exact .missing hlookup
    | some v =>
      rw [hlookup] at h
      cases hnull : isNull v with
      | true =>
        obtain rfl : none = a? := by simpa [hnull] using h
        exact .null hlookup hnull
      | false =>
        cases hv : read v with
        | error e => simp [hnull, hv, Functor.map, Except.map] at h
        | ok a =>
          obtain rfl : some a = a? := by simpa [hnull, hv, Functor.map, Except.map] using h
          exact .value hlookup hnull ((hread v a).1 hv)
  · rintro (hlookup | ⟨hlookup, hnull⟩ | ⟨hlookup, hnull, hv⟩)
    · simp [hlookup]
    · simp [hlookup, hnull]
    · simp [hlookup, hnull, (hread _ _).2 hv, Functor.map, Except.map]

end Readable

namespace FileSettings

open Readable

variable {V : Type} [Readable V] {v : V}

/-- A value that holds the settings for backups. -/
def IsBackup (v : V) (suffix : Option String) : Prop :=
  ∃ fs, record? ["suffix"] 1 v = some fs ∧ Says IsText fs "suffix" suffix

/-- A value that holds the settings for the checker. -/
def IsChecker (v : V) (c : Option (List String) × Option Nat) : Prop :=
  ∃ fs, record? ["command", "timeout_secs"] 2 v = some fs
    ∧ Says (IsList IsText) fs "command" c.1 ∧ Says (IsNat Text.word64) fs "timeout_secs" c.2

/-- Fields that say some settings. -/
structure Fields (fs : List (String × V)) (f : FileSettings) : Prop where
  path : Says IsText fs "path" f.path
  extensions : Says (IsList IsText) fs "include" f.extensions
  excluded : Says (IsList IsText) fs "exclude_dirs" f.excluded
  dryRun : Says IsBool fs "dry_run" f.dryRun
  verbose : Says IsBool fs "verbose" f.verbose
  verify : Says IsBool fs "verify" f.verify
  strict : Says IsBool fs "strict" f.strict
  diff : Says IsBool fs "diff" f.diff
  steps : Says (IsList (IsNat Text.word32)) fs "steps" f.steps
  jobs : Says (IsNat Text.word64) fs "jobs" f.jobs
  output : Says IsText fs "output" f.output
  catalog : Says IsText fs "catalog" f.catalog
  backup : ∃ suffix, Says IsBackup fs "backup" suffix ∧ f.suffix = suffix.join
  checker : ∃ c, Says IsChecker fs "checker" c ∧ f.command = c.bind (·.1) ∧ f.timeout = c.bind (·.2)

/-- A value that holds some settings. -/
def Written (v : V) (f : FileSettings) : Prop :=
  ∃ fs, record? names names.length v = some fs ∧ Fields fs f

theorem readBackup_eq_ok_iff {suffix : Option String} :
    readBackup v = .ok suffix ↔ IsBackup v suffix := by
  simp only [readBackup, bind_eq_ok_iff, fields_eq_ok_iff,
    optional_eq_ok_iff fun _ _ => text_eq_ok_iff, IsBackup]

theorem readChecker_eq_ok_iff {c : Option (List String) × Option Nat} :
    readChecker v = .ok c ↔ IsChecker v c := by
  simp only [readChecker, bind_eq_ok_iff, fields_eq_ok_iff,
    optional_eq_ok_iff fun _ _ => list_eq_ok_iff fun _ _ => text_eq_ok_iff,
    optional_eq_ok_iff fun _ _ => nat_eq_ok_iff, IsChecker]
  refine exists_congr fun fs => and_congr_right fun _ => ⟨?_, fun ⟨hcommand, htimeout⟩ =>
    ⟨c.1, hcommand, c.2, htimeout, rfl⟩⟩
  rintro ⟨command, hcommand, timeout, htimeout, hc⟩
  obtain rfl := Except.ok.inj hc
  exact ⟨hcommand, htimeout⟩

/-- The settings that are read from a value are those that it holds. -/
theorem read_eq_ok_iff {f : FileSettings} : read v = .ok f ↔ Written v f := by
  simp only [read, bind_eq_ok_iff, fields_eq_ok_iff,
    optional_eq_ok_iff fun _ _ => text_eq_ok_iff, optional_eq_ok_iff fun _ _ => bool_eq_ok_iff,
    optional_eq_ok_iff fun _ _ => nat_eq_ok_iff,
    optional_eq_ok_iff fun _ _ => list_eq_ok_iff fun _ _ => text_eq_ok_iff,
    optional_eq_ok_iff fun _ _ => list_eq_ok_iff fun _ _ => nat_eq_ok_iff,
    optional_eq_ok_iff fun _ _ => readBackup_eq_ok_iff,
    optional_eq_ok_iff fun _ _ => readChecker_eq_ok_iff, Written]
  refine exists_congr fun fs => and_congr_right fun _ => ⟨?_, fun h => ?_⟩
  · rintro ⟨c, hc, path, hpath, extensions, hextensions, excluded, hexcluded, dryRun, hdryRun,
      verbose, hverbose, verify, hverify, strict, hstrict, diff, hdiff, steps, hsteps, jobs, hjobs,
      output, houtput, catalog, hcatalog, suffix, hsuffix, hf⟩
    obtain rfl := Except.ok.inj hf
    exact ⟨hpath, hextensions, hexcluded, hdryRun, hverbose, hverify, hstrict, hdiff, hsteps, hjobs,
      houtput, hcatalog, ⟨suffix, hsuffix, rfl⟩, c, hc, rfl, rfl⟩
  · obtain ⟨suffix, hsuffix, hf⟩ := h.backup
    obtain ⟨c, hc, hcommand, htimeout⟩ := h.checker
    refine ⟨c, hc, f.path, h.path, f.extensions, h.extensions, f.excluded, h.excluded, f.dryRun,
      h.dryRun, f.verbose, h.verbose, f.verify, h.verify, f.strict, h.strict, f.diff, h.diff,
      f.steps, h.steps, f.jobs, h.jobs, f.output, h.output, f.catalog, h.catalog, suffix, hsuffix,
      ?_⟩
    rw [← hf, ← hcommand, ← htimeout]
    rfl

end FileSettings
end SourceMend
