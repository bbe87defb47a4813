import Mathlib.Data.List.Basic
import SourceMend.Settings

/-!
# Settings in layers

A setting has the value of the first layer that gives one: the command line, the settings file,
the defaults.  Paths on the command line are taken as they are, and those in the file are seen
from the project root.  So the settings are made up field by field (`resolve_eq_merge`), and
what is changed in one place is changed nowhere else: one more override shows in its own field
only (`merge_without`), a field of the file that is overridden does not show at all
(`merge_file_without`), and another target shows only in the root and the file that are found
for it and in the target itself.  `resolve_fieldwise` says this of whole commands.
-/

namespace SourceMend

/-! ## The fields that can be overridden -/

/-- The settings that can be given on the command line. -/
inductive Settings.Key where
  | path | extensions | dryRun | verbose | verify | strict | diff | steps | jobs | output | catalog
  deriving DecidableEq, Repr

open Settings (Key)

/-- The overrides but for one setting. -/
def Overrides.without (o : Overrides) : Key → Overrides
  | .path => { o with path := none }
  | .extensions => { o with extensions := [] }
  | .dryRun => { o with dryRun := none }
  | .verbose => { o with verbose := none }
  | .verify => { o with verify := none }
  | .strict => { o with strict := none }
  | .diff => { o with diff := none }
  | .steps => { o with steps := none }
  | .jobs => { o with jobs := none }
  | .output => { o with output := none }
  | .catalog => { o with catalog := none }

/-- That a setting is overridden. -/
def Overrides.Gives (o : Overrides) : Key → Prop
  | .path => o.path ≠ none
  | .extensions => o.extensions ≠ []
  | .dryRun => o.dryRun ≠ none
  | .verbose => o.verbose ≠ none
  | .verify => o.verify ≠ none
  | .strict => o.strict ≠ none
  | .diff => o.diff ≠ none
  | .steps => o.steps ≠ none
  | .jobs => o.jobs ≠ none
  | .output => o.output ≠ none
  | .catalog => o.catalog ≠ none

/-- The settings of a file but for one. -/
def FileSettings.without (f : FileSettings) : Key → FileSettings
  | .path => { f with path := none }
  | .extensions => { f with extensions := none }
  | .dryRun => { f with dryRun := none }
  | .verbose => { f with verbose := none }
  | .verify => { f with verify := none }
  | .strict => { f with strict := none }
  | .diff => { f with diff := none }
  | .steps => { f with steps := none }
  | .jobs => { f with jobs := none }
  | .output => { f with output := none }
  | .catalog => { f with catalog := none }

namespace Settings

variable {t t' : Tree} {o o' : Overrides} {root : Path} {file : Option FileSettings}
  {f f' : FileSettings} {k : Key}

/-- The settings but for one, which does not show any more. -/
def without (s : Settings) : Key → Settings
  | .path => { s with target := ⟨.empty⟩ }
  | .extensions => { s with extensions := [] }
  | .dryRun => { s with dryRun := false }
  | .verbose => { s with verbose := false }
  | .verify => { s with verify := false }
  | .strict => { s with strict := false }
  | .diff => { s with diff := false }
  | .steps => { s with steps := none }
  | .jobs => { s with jobs := 0 }
  | .output => { s with output := "" }
  | .catalog => { s with catalog := none }

/-- That two results are the same error, or settings that differ in one field at most. -/
def SameBut (k : Key) (r r' : Except SettingsError Settings) : Prop :=
  r.map (·.without k) = r'.map (·.without k)

/-! ## Layers -/

/-- The value of the first layer that gives one: of the command line, the file, the defaults. -/
def layered {α : Type} : Option α → Option α → α → α
  | some given, _, _ => given
  | none, some written, _ => written
  | none, none, default => default

theorem layered_eq_getD {α : Type} (given written : Option α) (default : α) :
    layered given written default = (given <|> written).getD default := by
  cases given <;> cases written <;> rfl

/-- What is given hides what is written. -/
theorem layered_of_given {α : Type} {given : Option α} (h : given ≠ none)
    (written written' : Option α) (default : α) :
    layered given written default = layered given written' default := by
  cases given with
  | none => exact absurd rfl h
  | some a => rfl

theorem layered_none {α : Type} (written : Option α) (default : α) :
    layered none written default = written.getD default := by
  cases written <;> rfl

theorem layered_map_some {α : Type} (given written : Option α) :
    layered (given.map some) (written.map some) none = (given <|> written) := by
  cases given <;> cases written <;> rfl

/-- A list as a layer.  The empty list gives nothing. -/
def listed (xs : List String) : Option (List String) := if xs = [] then none else some xs

/-- The settings that overrides make up with the settings file of a project root, if it has one. -/
def merge (o : Overrides) (root : Path) (file : Option FileSettings) : Settings :=
  let f := file.getD {}
  { root
    configured := file.isSome
    target := layered (o.path.map fun p : String => ⟨p⟩)
      (f.path.map fun p : String => root.child p) root
    extensions := layered (listed o.extensions) f.extensions ["ts", "tsx"]
    excluded := layered none f.excluded defaultExcluded
    dryRun := layered o.dryRun f.dryRun false
    verbose := layered o.verbose f.verbose false
    verify := layered o.verify f.verify false
    strict := layered o.strict f.strict false
    diff := layered o.diff f.diff false
    steps := layered (o.steps.map some) (f.steps.map some) none
    jobs := layered o.jobs f.jobs 0
    output := layered o.output f.output "human"
    catalog := layered ((o.catalog.map fun c : String => ⟨c⟩).map some)
      ((f.catalog.map fun c : String => root.child c).map some) none
    suffix := layered none (f.suffix.map some) none
    command := layered none f.command ["npx", "tsc", "--noEmit", "--pretty", "false"]
    timeout := layered none f.timeout 300 }

/-- Where the project root is searched from: the target, or what is left of it without its name if
it is a file. -/
def searchStart (t : Tree) (o : Overrides) : Path :=
  let target : Path := ⟨o.path.getD "."⟩
  if t.hasFile target then target.parent?.getD ⟨.empty⟩ else target

/-- The project root for some overrides. -/
def rootFor (t : Tree) (o : Overrides) : Path := findRoot t (searchStart t o)

/-- The settings of a command are those of the file of its project root, below the overrides and
above the defaults. -/
theorem resolve_eq_merge (t : Tree) (o : Overrides) :
    resolve t o = (FileSettings.load t (rootFor t o)).map (merge o (rootFor t o)) := by
  have hlisted (xs : List String) (written : Option (List String)) :
      layered (listed xs) written ["ts", "tsx"]
        = if xs.isEmpty then written.getD defaultExtensions else xs := by
    cases xs <;> cases written <;> rfl
  have hsuffix (written : Option String) : (written.map some).getD none = written := by
    cases written <;> rfl
  simp only [resolve, rootFor, searchStart, bind, Except.bind, pure, Except.pure]
  generalize findRoot t _ = root
  cases FileSettings.load t root with
  | error e => rfl
  | ok file =>
    simp only [Except.map, merge, hlisted, layered_map_some, layered_none, hsuffix, defaultCommand,
      defaultTimeout, ← layered_eq_getD, Except.ok.injEq, mk.injEq, true_and, and_true]
    -- what is left is the target, for which the layers do not have the form of the others
    cases o.path <;> cases (file.getD {}).path <;> rfl

/-! ## One field at a time -/

/-- An override shows in its own field only. -/
theorem merge_without (o : Overrides) (root : Path) (file : Option FileSettings) (k : Key) :
    (merge o root file).without k = (merge (o.without k) root file).without k := by
  cases k <;> rfl

/-- A setting of the file that is overridden does not show. -/
theorem merge_file_without (h : o.Gives k) (root : Path) (f : FileSettings) :
    merge o root (some f) = merge o root (some (f.without k)) := by
  cases k <;> simp only [merge, FileSettings.without, Option.getD_some] <;> congr 1
  all_goals exact layered_of_given (by simpa [Overrides.Gives, listed] using h) _ _ _

/-- Settings differ in one field at most where the overrides do. -/
theorem sameBut_map_merge (h : o.without k = o'.without k) (root : Path)
    (loaded : Except SettingsError (Option FileSettings)) :
    SameBut k (loaded.map (merge o root)) (loaded.map (merge o' root)) := by
  cases loaded with
  | error e => rfl
  | ok file =>
    have hmerge : (merge o root file).without k = (merge o' root file).without k := by
      rw [merge_without o, merge_without o', h]
    exact congrArg Except.ok hmerge

/-- The project root depends on the target alone. -/
theorem rootFor_congr (t : Tree) (h : o.path = o'.path) : rootFor t o = rootFor t o' := by
  rw [rootFor, rootFor, searchStart, searchStart, h]

theorem path_eq_of_without (hk : k ≠ .path) (h : o.without k = o'.without k) :
    o.path = o'.path := by
  have hpath (o : Overrides) : (o.without k).path = o.path := by
    cases k <;> first | rfl | exact absurd rfl hk
  rw [← hpath o, h, hpath o']

/-! ## Whole commands -/

/-- Every setting is that of the first layer that gives it.  Overrides that differ in one setting
besides the target lead to settings that differ in that field at most.  What the settings file has
for an overridden setting makes no difference.  Another target leads to the settings of the same
overrides with the root and the file for that target, but for the target. -/
theorem resolve_fieldwise :
    (∀ t o, resolve t o = (FileSettings.load t (rootFor t o)).map (merge o (rootFor t o)))
      ∧ (∀ t o o' k, k ≠ .path → o.without k = o'.without k →
          SameBut k (resolve t o) (resolve t o'))
      ∧ (∀ t t' o k f f', o.Gives k → rootFor t o = rootFor t' o →
          FileSettings.load t (rootFor t o) = .ok (some f) →
          FileSettings.load t' (rootFor t' o) = .ok (some f') → f.without k = f'.without k →
          resolve t o = resolve t' o)
      ∧ (∀ t o o', o.without .path = o'.without .path → SameBut .path (resolve t o')
          ((FileSettings.load t (rootFor t o')).map (merge o (rootFor t o')))) := by
  refine ⟨resolve_eq_merge, ?_, ?_, ?_⟩
  · intro t o o' k hk h
    rw [resolve_eq_merge, resolve_eq_merge, rootFor_congr t (path_eq_of_without hk h)]
    exact sameBut_map_merge h _ _
  · intro t t' o k f f' hgives hroot hf hf' h
    rw [resolve_eq_merge, resolve_eq_merge, hf, hf', hroot]
    refine congrArg Except.ok ?_
    rw [merge_file_without hgives, h, ← merge_file_without hgives]
  · intro t o o' h
    rw [resolve_eq_merge t o']
    exact sameBut_map_merge h.symm _ _

/-- A tree whose root directory has a settings file. -/
def noted (text : String) : Tree := Tree.empty.put ["tsmend.toml"] (.file text.toUTF8)

/-- A number of files on the command line shows in that field, the number in the settings file does
not show then, and another target in the same directory shows in the target. -/
theorem resolve_fieldwise_noted :
    SameBut .jobs (resolve (noted "jobs = 2") {}) (resolve (noted "jobs = 2") { jobs := some 1 })
      ∧ resolve (noted "jobs = 2") { jobs := some 1 }
        = resolve (noted "jobs = 3") { jobs := some 1 }
      ∧ SameBut .path (resolve (noted "jobs = 2") { path := some "a.ts" })
          (.ok (merge {} ⟨"/"⟩ (some { jobs := some 2 }))) := by
  obtain ⟨-, hoverride, hfile, htarget⟩ := resolve_fieldwise
  have hroot : rootFor (noted "jobs = 2") { jobs := some 1 } = ⟨"/"⟩ := by decide +kernel
  have hroot' : rootFor (noted "jobs = 3") { jobs := some 1 } = ⟨"/"⟩ := by decide +kernel
  have hload : FileSettings.load (noted "jobs = 2") ⟨"/"⟩ = .ok (some { jobs := some 2 }) := by
    decide +kernel
  have hload' : FileSettings.load (noted "jobs = 3") ⟨"/"⟩ = .ok (some { jobs := some 3 }) := by
    decide +kernel
  have hother : rootFor (noted "jobs = 2") { path := some "a.ts" } = ⟨"/"⟩ := by decide +kernel
  refine ⟨hoverride _ {} { jobs := some 1 } .jobs (by decide) rfl, ?_, ?_⟩
  · have hgives : Overrides.Gives { jobs := some 1 } .jobs := by simp [Overrides.Gives]
    exact hfile _ _ _ _ { jobs := some 2 } { jobs := some 3 } hgives (hroot.trans hroot'.symm)
      (hroot ▸ hload) (hroot' ▸ hload') rfl
  · have h := htarget (noted "jobs = 2") {} { path := some "a.ts" } rfl
    rwa [hother, hload] at h

end Settings
end SourceMend
