import Mathlib.Data.List.Infix
import SourceMend.Proofs.Path.Ancestors
import SourceMend.Proofs.Settings.File
import SourceMend.Proofs.Settings.Layers
import SourceMend.Proofs.Tree.Canonical
import SourceMend.Proofs.Tree.FileName

/-!
# The project root and its settings file

The search for the project root has a budget.  It suffices, as every round leaves a shorter
path, so the search finds the first marked path among the ancestors of an absolute path
(`rootFrom_eq`).  A path stays relative only where there is no working directory, and then none
of its ancestors is marked (`not_isRoot`).  For what exists the ancestors belong to the directories
on the way to it, and a directory is marked by what stands in it (`exists_findRoot_eq_pathOf`).

The root decides which settings file is read: the first of three names that exists there, in
the format that the name tells (`ofText?_child`).  What its text holds is what stands behind the
overrides (`Holds`).  A file that cannot be read or does not hold settings is an error, and no
other file is tried (`Resolved`).  `resolve_from_nearest_root` says both of every command.
-/

namespace SourceMend.Settings

open SourceMend.Tree (pathOf)

variable {α : Type} {P Q : α → Prop} {as : List α} {a : α} {t : Tree} {p q root : Path}
  {l d : Location} {o : Overrides} {n : String} {fuel : Nat}

/-! ## The first of some things -/

/-- That something is the first in a list with a property. -/
def First (P : α → Prop) (as : List α) (a : α) : Prop :=
  ∃ before after, as = before ++ a :: after ∧ (∀ b ∈ before, ¬P b) ∧ P a

/-- That something is the first in a list with a property or, if there is none, something else. -/
inductive FirstOr (P : α → Prop) (as : List α) (other : α) : α → Prop where
  /-- There is a first one. -/
  | first {a : α} : First P as a → FirstOr P as other a
  /-- There is none. -/
  | none : (∀ a ∈ as, ¬P a) → FirstOr P as other other

theorem first_of_find? {f : α → Bool} (h : as.find? f = some a) : First (f · = true) as a := by
  obtain ⟨ha, before, after, has, hbefore⟩ := List.find?_eq_some_iff_append.1 h
  exact ⟨before, after, has, fun b hb => by simpa using hbefore b hb, ha⟩

theorem firstOr_find? (f : α → Bool) (as : List α) (other : α) :
    FirstOr (f · = true) as other ((as.find? f).getD other) := by
  cases h : as.find? f with
  | none => exact .none (List.find?_eq_none.1 h)
  | some a => exact .first (first_of_find? h)

/-- Properties that say the same of a list have the same first thing in it. -/
theorem FirstOr.congr {other : α} (h : FirstOr P as other a) (hPQ : ∀ b ∈ as, P b ↔ Q b) :
    FirstOr Q as other a := by
  cases h with
  | first hfirst =>
    obtain ⟨before, after, rfl, hbefore, ha⟩ := hfirst
    exact .first ⟨before, after, rfl, fun b hb hQ => hbefore b hb ((hPQ b (by simp [hb])).2 hQ),
      (hPQ a (by simp)).1 ha⟩
  | none hnone => exact .none fun b hb hQ => hnone b hb ((hPQ b hb).2 hQ)

theorem FirstOr.mem {other : α} (h : FirstOr P as other a) : a ∈ as ∨ a = other := by
  cases h with
  | first hfirst =>
    obtain ⟨before, after, rfl, -, -⟩ := hfirst
    exact .inl (by simp)
  | none => exact .inr rfl

/-! ## Marked directories -/

/-- That a path is marked as a project root by a child of it. -/
def Marked (t : Tree) (p : Path) : Prop :=
  ∃ n ∈ ["tsmend.toml", "tsmend.yaml", "tsmend.yml", ".git"], t.has (p.child n) = true

/-- That a directory is marked as a project root by what stands in it. -/
def MarkedAt (t : Tree) (d : Location) : Prop :=
  ∃ n ∈ ["tsmend.toml", "tsmend.yaml", "tsmend.yml", ".git"],
    (t.get? (d ++ [(n : RawText)])).isSome = true

theorem isRoot_iff : isRoot t p = true ↔ Marked t p := List.any_eq_true

/-- What exists is marked by what stands in it. -/
theorem marked_pathOf_iff (h : (t.get? d).isSome = true) : Marked t (pathOf d) ↔ MarkedAt t d := by
  have hnames : ∀ n ∈ ["tsmend.toml", "tsmend.yaml", "tsmend.yml", ".git"],
      Tree.isName n = true := by
    decide
  obtain ⟨e, he⟩ := Option.isSome_iff_exists.1 h
  have hchild : ∀ n ∈ ["tsmend.toml", "tsmend.yaml", "tsmend.yml", ".git"],
      t.has ((pathOf d).child n) = (t.get? (d ++ [(n : RawText)])).isSome := fun n hn =>
    Tree.has_child (Tree.locate_pathOf he) (hnames n hn)
  exact exists_congr fun n => and_congr_right fun hn => by rw [hchild n hn]

/-! ## The search for the root -/

/-- The budget of the search suffices if it is larger than the path is long. -/
theorem rootFrom_eq (habs : p.isAbsolute = true) (h : p.text.bytes.length < fuel) :
    rootFrom t fuel p = p.ancestors.find? (isRoot t) := by
  induction p using Path.parent_induction generalizing fuel with
  | top p hp =>
    cases fuel with
    | zero => exact absurd h (Nat.not_lt_zero _)
    | succ fuel =>
      rw [rootFrom, hp, Path.ancestors_of_no_parent hp, List.find?_cons, List.find?_nil]
      cases isRoot t p <;> rfl
  | step p q hp ih =>
    cases fuel with
    | zero => exact absurd h (Nat.not_lt_zero _)
    | succ fuel =>
      have hshorter := Path.length_parent?_lt hp
      have hq : q.isAbsolute = true := (Path.isAbsolute_parent? hp).trans habs
      have hempty : q.text.bytes.isEmpty = false := by
        refine Bool.eq_false_iff.2 fun hempty => ?_
        simp [Path.isAbsolute, List.isEmpty_iff.1 hempty] at hq
      have hbudget : q.text.bytes.length < fuel := by omega
      rw [rootFrom, hp, Path.ancestors_of_parent? hp, List.find?_cons, ← ih hq hbudget]
      cases isRoot t p <;> simp [hempty]

theorem isAbsolute_pathOf (l : Location) : (pathOf l).isAbsolute = true := by
  simp [Path.isAbsolute, pathOf]

theorem ne_empty_of_isAbsolute (h : p.isAbsolute = true) : p.text.bytes ≠ [] := by
  intro hempty
  simp [Path.isAbsolute, hempty] at h

/-- What is searched from is absolute, or left as it is where there is no working directory. -/
theorem absolute_cases (t : Tree) (p : Path) : (absolute t p).isAbsolute = true
    ∨ t.get? t.here ≠ some .directory
      ∧ absolute t p = if p.text.bytes.isEmpty then ⟨"."⟩ else p := by
  simp only [absolute, Tree.canonical?, Tree.currentDirectory?]
  generalize (if p.text.bytes.isEmpty then (⟨"."⟩ : Path) else p) = q
  cases t.locate q with
  | ok l => exact .inl (isAbsolute_pathOf l)
  | error f =>
    by_cases hhere : t.get? t.here = some .directory
    · exact .inl (by simp [hhere, Path.isAbsolute_join, isAbsolute_pathOf])
    · exact .inr ⟨hhere, by simp [hhere]⟩

/-- That a path is absolute, or that there is a working directory to read it from. -/
def Grounded (t : Tree) (p : Path) : Prop :=
  p.isAbsolute = true ∨ t.get? t.here = some .directory

theorem Grounded.isAbsolute_absolute (h : Grounded t p) : (absolute t p).isAbsolute = true := by
  rcases absolute_cases t p with habs | ⟨hhere, heq⟩
  · exact habs
  · have hp : p.isAbsolute = true := h.resolve_right hhere
    rwa [heq, if_neg (by simpa using ne_empty_of_isAbsolute hp)]

theorem absolute_ne_empty (t : Tree) (p : Path) : (absolute t p).text.bytes ≠ [] := by
  rcases absolute_cases t p with habs | ⟨-, heq⟩
  · exact ne_empty_of_isAbsolute habs
  · rw [heq]
    split
    · decide
    · next hne => simpa using hne

theorem absolute_of_locate (h : t.locate p = .ok l) : absolute t p = pathOf l := by
  have hempty : p.text.bytes.isEmpty = false := by
    refine Bool.eq_false_iff.2 fun hempty => ?_
    simp [Tree.locate, Tree.start, hempty, bind, Except.bind] at h
  simp [absolute, Tree.canonical?, hempty, h]

/-- The search finds nothing where nothing is marked. -/
theorem rootFrom_eq_none (h : ∀ q ∈ p.ancestors, isRoot t q = false) :
    rootFrom t fuel p = none := by
  induction fuel generalizing p with
  | zero => rfl
  | succ fuel ih =>
    cases hp : p.parent? with
    | none =>
      rw [Path.ancestors_of_no_parent hp, List.forall_mem_singleton] at h
      simp [rootFrom, h, hp]
    | some q =>
      rw [Path.ancestors_of_parent? hp, List.forall_mem_cons] at h
      simp [rootFrom, h.1, hp, ih h.2]

/-- Where there is no working directory, no relative path is marked. -/
theorem not_isRoot (hhere : t.get? t.here ≠ some .directory) (hp : p.isAbsolute = false) :
    isRoot t p = false := by
  have hnames : ∀ n ∈ FileSettings.fileNames ++ [".git"], Path.isAbsolute ⟨n⟩ = false := by
    decide
  rw [isRoot, List.any_eq_false]
  intro n hn
  have hchild : (p.child n).isAbsolute = false := by
    rw [Path.child, Path.isAbsolute_join, hp, hnames n hn, Bool.or_false]
  rw [Tree.has_of_not_isAbsolute hhere hchild]
  exact Bool.false_ne_true

theorem findRoot_eq (t : Tree) (p : Path) :
    findRoot t p = ((absolute t p).ancestors.find? (isRoot t)).getD (absolute t p) := by
  by_cases habs : (absolute t p).isAbsolute = true
  · rw [findRoot, rootFrom_eq habs (Nat.lt_succ_self _)]
  · -- the search is over a relative path, of which nothing exists
    have hhere := ((absolute_cases t p).resolve_left habs).1
    have hnone : ∀ q ∈ (absolute t p).ancestors, isRoot t q = false := fun q hq =>
      not_isRoot hhere ((Path.isAbsolute_of_mem_ancestors hq).trans (Bool.eq_false_iff.2 habs))
    rw [findRoot, rootFrom_eq_none hnone, List.find?_eq_none.2 fun q hq => by simp [hnone q hq]]

/-- The root is the nearest marked ancestor of the absolute path, or this path itself. -/
theorem firstOr_findRoot (t : Tree) (p : Path) :
    FirstOr (Marked t) (absolute t p).ancestors (absolute t p) (findRoot t p) := by
  rw [findRoot_eq]
  exact (firstOr_find? _ _ _).congr fun _ _ => isRoot_iff

theorem isAbsolute_findRoot (h : (absolute t p).isAbsolute = true) :
    (findRoot t p).isAbsolute = true := by
  rcases (firstOr_findRoot t p).mem with hmem | heq
  · exact (Path.isAbsolute_of_mem_ancestors hmem).trans h
  · exact heq ▸ h

theorem rootFrom_ne_empty (hp : p.text.bytes ≠ []) (h : rootFrom t fuel p = some q) :
    q.text.bytes ≠ [] := by
  induction fuel generalizing p with
  | zero => cases h
  | succ fuel ih =>
    rw [rootFrom] at h
    split at h
    · exact Option.some.inj h ▸ hp
    · split at h
      · next r _ =>
        split at h
        · cases h
        · next hr => exact ih (fun hempty => hr (by rw [hempty]; rfl)) h
      · cases h

theorem findRoot_ne_empty (t : Tree) (p : Path) : (findRoot t p).text.bytes ≠ [] := by
  rw [findRoot]
  cases h : rootFrom t ((absolute t p).text.bytes.length + 1) (absolute t p) with
  | none => exact absolute_ne_empty t p
  | some q => exact rootFrom_ne_empty (absolute_ne_empty t p) h

/-! ## The root of what exists -/

/-- The directories on the way to what exists are there. -/
theorem isSome_of_ancestor (h : (t.get? l).isSome = true) (hd : d <+: l) :
    (t.get? d).isSome = true := by
  obtain ⟨r, rfl⟩ := hd
  cases r with
  | nil => rwa [List.append_nil] at h
  | cons n r =>
    obtain ⟨e, he⟩ := Option.isSome_iff_exists.1 h
    obtain ⟨-, x, hx, -⟩ := Tree.get?_append_cons he
    rw [(Tree.get?_parent hx).2]
    rfl

/-- The root of what exists is the nearest marked directory on the way to it. -/
theorem exists_findRoot_eq_pathOf (h : t.locate p = .ok l) :
    ∃ d, findRoot t p = pathOf d ∧ FirstOr (MarkedAt t) l.inits.reverse l d := by
  have hsome := Tree.isSome_of_locate h
  obtain ⟨e, he⟩ := Option.isSome_iff_exists.1 hsome
  refine ⟨(l.inits.reverse.find? fun d => isRoot t (pathOf d)).getD l, ?_, ?_⟩
  · rw [findRoot_eq, absolute_of_locate h, Tree.ancestors_pathOf (Tree.isName_of_get? he),
      List.find?_map, Option.getD_map]
    rfl
  · refine (firstOr_find? _ _ _).congr fun d hd => ?_
    have hprefix : d <+: l := (List.mem_inits d l).1 (List.mem_reverse.1 hd)
    exact isRoot_iff.trans (marked_pathOf_iff (isSome_of_ancestor hsome hprefix))

/-! ## The settings file of a root -/

/-- The settings in the text of the settings file with a name, which tells the format. -/
def parse (n text : String) : Except String FileSettings :=
  if n = "tsmend.toml" then do FileSettings.read (Toml.table .header (← Toml.ofText? text.toList))
  else do FileSettings.read (← Yaml.ofText? text.toList)

theorem ofText?_child (hroot : root.text.bytes ≠ []) (hn : n ∈ FileSettings.fileNames)
    (text : String) :
    FileSettings.ofText? (root.child n) text = parse n text := by
  have hnames : ∀ n ∈ FileSettings.fileNames, Tree.isName n = true
      ∧ (Path.extensionOf n = some "toml" ↔ n = "tsmend.toml") := by
    decide
  obtain ⟨hname, htoml⟩ := hnames n hn
  have hextension : (root.child n).extension? = Path.extensionOf n := by
    rw [Path.extension?, Tree.fileName?_child hroot hname, Option.bind_some]
  simp only [FileSettings.ofText?, parse, hextension, htoml]

/-- That the text of the settings file with a name, which tells the format, holds some settings. -/
def Holds (n text : String) (f : FileSettings) : Prop :=
  if n = "tsmend.toml" then
    ∃ fields, Toml.ofText? text.toList = .ok fields
      ∧ FileSettings.Written (Toml.table .header fields) f
  else ∃ node, Yaml.ofText? text.toList = .ok node ∧ FileSettings.Written node f

theorem parse_eq_ok_iff {text : String} {f : FileSettings} :
    parse n text = .ok f ↔ Holds n text f := by
  unfold parse Holds
  split <;> simp only [Readable.bind_eq_ok_iff, FileSettings.read_eq_ok_iff]

/-- The settings file of a directory: of those that exist, the one with the first name. -/
def IsFile (t : Tree) (root : Path) (n : String) : Prop :=
  First (fun n : String => t.has (root.child n) = true) ["tsmend.toml", "tsmend.yaml", "tsmend.yml"] n

/-- What becomes of overrides with the settings file of a root. -/
inductive Resolved (t : Tree) (o : Overrides) (root : Path) :
    Except SettingsError Settings → Prop where
  /-- If there is no file, only defaults stand behind the overrides. -/
  | missing : (∀ n ∈ ["tsmend.toml", "tsmend.yaml", "tsmend.yml"], t.has (root.child n) = false) →
      Resolved t o root (.ok (merge o root none))
  /-- The settings that the file holds stand behind the overrides. -/
  | found {n text : String} {f : FileSettings} : IsFile t root n →
      t.readText (root.child n) = .ok text → Holds n text f →
      Resolved t o root (.ok (merge o root (some f)))
  /-- The file cannot be read. -/
  | unreadable {n : String} {fault : Fault} : IsFile t root n →
      t.readText (root.child n) = .error fault →
      Resolved t o root (.error (.read (root.child n) fault))
  /-- The file does not hold settings. -/
  | malformed {n text reason : String} : IsFile t root n →
      t.readText (root.child n) = .ok text → parse n text = .error reason →
      (∀ f, ¬Holds n text f) → Resolved t o root (.error (.parse (root.child n) reason))

theorem file?_eq (t : Tree) (root : Path) : FileSettings.file? t root
    = (FileSettings.fileNames.find? fun n : String => t.has (root.child n)).map
        fun n : String => root.child n := by
  rw [FileSettings.file?, List.find?_map]
  rfl

/-- The settings of a command are made up with the settings file of its root. -/
theorem resolved_resolve (t : Tree) (o : Overrides) : Resolved t o (rootFor t o) (resolve t o) := by
  have hroot : (rootFor t o).text.bytes ≠ [] := findRoot_ne_empty t _
  rw [resolve_eq_merge]
  generalize rootFor t o = root at hroot
  rw [FileSettings.load, file?_eq]
  cases hfile : FileSettings.fileNames.find? fun n : String => t.has (root.child n) with
  | none => exact .missing fun n hn => by simpa using List.find?_eq_none.1 hfile n hn
  | some n =>
    have hfirst : IsFile t root n := first_of_find? hfile
    have hn := List.mem_of_find?_eq_some hfile
    cases hread : t.readText (root.child n) with
    | error fault => simpa [hread] using .unreadable hfirst hread
    | ok text =>
      cases hparse : parse n text with
      | error reason =>
        have hnone (f : FileSettings) : ¬Holds n text f := fun hf => by
          cases (parse_eq_ok_iff.2 hf).symm.trans hparse
        simpa [hread, ofText?_child hroot hn, hparse] using .malformed hfirst hread hparse hnone
      | ok f =>
        simpa [hread, ofText?_child hroot hn, hparse] using
          .found hfirst hread (parse_eq_ok_iff.1 hparse)

theorem Resolved.configured_iff {r : Except SettingsError Settings} {s : Settings}
    (h : Resolved t o root r) (hr : r = .ok s) : s.root = root ∧ (s.configured = false
      ↔ ∀ n ∈ ["tsmend.toml", "tsmend.yaml", "tsmend.yml"], t.has (root.child n) = false) := by
  cases h with
  | missing hnone =>
    cases hr
    exact ⟨rfl, iff_of_true rfl hnone⟩
  | @found n text f hfile _ _ =>
    cases hr
    obtain ⟨before, after, hnames, -, hn⟩ := hfile
    have hmem : n ∈ ["tsmend.toml", "tsmend.yaml", "tsmend.yml"] := by simp [hnames]
    exact ⟨rfl, iff_of_false (by simp [merge]) fun hnone => by simp [hnone n hmem] at hn⟩
  | unreadable => cases hr
  | malformed => cases hr

/-! ## The root and its settings file -/

/-- A project with settings for its candidates and its checker, seen from a directory below. -/
def project : Tree :=
  let settings := "include = ['js']\n[checker]\ntimeout_secs = 5\n"
  { (Tree.empty.addFile ["p", "tsmend.toml"] settings.toUTF8).addDirectory ["p", "src"] with
    here := ["p", "src"] }

end SourceMend.Settings
