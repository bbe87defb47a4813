import SourceMend.Tree.Entries

/-!
# Trees of files

A tree holds every file and directory that exists, each under its *location*,
the names that lead to it from the root directory.  One location is that of the
working directory, where relative paths start.  The working directory may have
been removed, and then relative paths lead nowhere.  There are no links, so a
location is what is left of a path when `.`, `..` and repeated separators are
worked off.

`locate` resolves a path the way the file system does: every component but the
last has to be an existing directory, and the last has to exist.  The entries
are ascending by location, and at most one stands under each, so two trees with
the same content are equal.  Every entry has a name that a file can have and
stands in a directory.
-/

namespace SourceMend

open RawText (slash dot)

namespace Tree

/-! ## Names -/

/-- The number of bytes that a name may have. -/
def nameLimit : Nat := 255

/-- Whether a raw text can be the name of a file or directory. -/
def isName (n : RawText) : Bool :=
  !Path.isIdle n.bytes && n.bytes != [dot, dot] && !n.bytes.contains slash && !n.bytes.contains 0
    && n.bytes.length ≤ nameLimit

/-- A location is rooted when its last name can be one and the rest leads to a directory. -/
def Rooted (es : List (Location × Entry)) (l : Location) : Prop :=
  ∃ d n, l = d ++ [n] ∧ isName n = true ∧ (d = [] ∨ (d, .directory) ∈ es)

/-! ## Trees -/

end Tree

/-- All files and directories, and the working directory. -/
structure Tree where
  /-- What exists apart from the root directory, ascending by location. -/
  entries : List (Location × Entry)
  /-- Where the working directory is, if it has not been removed. -/
  here : Location
  /-- At most one entry stands under each location. -/
  ascending : Tree.Ascending entries := by exact .nil
  /-- Everything stands in a directory. -/
  rooted : ∀ x ∈ entries, Tree.Rooted entries x.1 := by simp

namespace Tree

/-- The tree without files, seen from the root directory. -/
def empty : Tree where
  entries := []
  here := []

instance : DecidableEq Tree := fun s t =>
  if h : s.entries = t.entries ∧ s.here = t.here then
    isTrue (by cases s; cases t; cases h.1; cases h.2; rfl)
  else isFalse fun e => h (e ▸ ⟨rfl, rfl⟩)

/-- What stands at a location. -/
def get? (t : Tree) (l : Location) : Option Entry :=
  if l = [] then some .directory else t.entries.lookup l

/-- Whether `e` can stand at the location `l`: in a directory, and not in place of one unless it is
a directory itself. -/
def fits (t : Tree) (l : Location) (e : Entry) : Bool :=
  l.getLast?.any isName && t.get? l.dropLast == some .directory
    && (t.get? l != some .directory || e == .directory)

theorem mem_entries_of_get? {t : Tree} {l : Location} {e : Entry} (h : t.get? l = some e)
    (hl : l ≠ []) : (l, e) ∈ t.entries := by
  rw [get?, if_neg hl] at h
  exact t.ascending.lookup_eq_some_iff.1 h

/-- What fits keeps everything in a directory. -/
theorem rooted_place {t : Tree} {l : Location} {e : Entry} (h : t.fits l e = true) :
    ∀ x ∈ place l e t.entries, Rooted (place l e t.entries) x.1 := by
  simp only [fits, Bool.and_eq_true, Bool.or_eq_true, bne_iff_ne, beq_iff_eq, ne_eq,
    Option.any_eq_true] at h
  obtain ⟨⟨⟨n, hn, hname⟩, hparent⟩, hkept⟩ := h
  obtain ⟨d, rfl⟩ := List.getLast?_eq_some_iff.1 hn
  rw [List.dropLast_concat] at hparent
  -- A directory stays one: only `l` is replaced, and a directory there only by a directory.
  have stays {k : Location} (hk : (k, Entry.directory) ∈ t.entries) :
      (k, Entry.directory) ∈ place (d ++ [n]) e t.entries := by
    by_cases hkd : k = d ++ [n]
    · subst hkd
      have hfound : t.get? (d ++ [n]) = some .directory := by
        rw [get?, if_neg (by simp)]
        exact t.ascending.lookup_eq_some_iff.2 hk
      have he : e = .directory := hkept.resolve_left fun hnot => hnot hfound
      exact he ▸ mem_place_self _ e t.entries
    · exact mem_place_of_ne hk hkd
  intro x hx
  rcases mem_of_mem_place hx with rfl | hx
  · refine ⟨d, n, rfl, hname, ?_⟩
    by_cases hd : d = []
    · exact .inl hd
    · exact .inr (stays (mem_entries_of_get? hparent hd))
  · obtain ⟨k, m, hkm, hm, hk⟩ := t.rooted x hx
    exact ⟨k, m, hkm, hm, hk.imp id stays⟩

/-- The tree with `e` at the location `l`, if it fits there. -/
def put (t : Tree) (l : Location) (e : Entry) : Tree :=
  if h : t.fits l e = true then
    { t with
      entries := place l e t.entries
      ascending := t.ascending.place l e
      rooted := rooted_place h }
  else t

/-- Where no entry is below `l`, one is in a directory that is not below `l` either. -/
theorem rooted_filter {es : List (Location × Entry)} (h : ∀ x ∈ es, Rooted es x.1)
    (l : Location) :
    ∀ x ∈ es.filter fun e => !l.isPrefixOf e.1,
      Rooted (es.filter fun e => !l.isPrefixOf e.1) x.1 := by
  intro x hx
  obtain ⟨hx, hout⟩ := List.mem_filter.1 hx
  obtain ⟨d, n, hdn, hn, hd⟩ := h x hx
  refine ⟨d, n, hdn, hn, hd.imp id fun hd => List.mem_filter.2 ⟨hd, ?_⟩⟩
  simp only [Bool.not_eq_true', Bool.eq_false_iff, ne_eq, List.isPrefixOf_iff_prefix] at hout ⊢
  intro hpre
  exact hout (hdn ▸ hpre.trans (List.prefix_append d [n]))

/-- The tree without what stands at `l` and below it. -/
def erase (t : Tree) (l : Location) : Tree :=
  { t with
    entries := t.entries.filter fun e => !l.isPrefixOf e.1
    ascending := t.ascending.filter _
    rooted := rooted_filter t.rooted l }

/-- The tree with directories along `names` below `l`.  What exists is kept. -/
def addBelow (t : Tree) (l : Location) : Location → Tree
  | [] => t
  | n :: rest =>
    let d := l ++ [n]
    (if (t.get? d).isSome then t else t.put d .directory).addBelow d rest

/-- The tree with the directory `l` and its parents. -/
def addDirectory (t : Tree) (l : Location) : Tree := t.addBelow [] l

/-- The tree with the file `l` and its parent directories. -/
def addFile (t : Tree) (l : Location) (bytes : ByteArray) : Tree :=
  (t.addDirectory l.dropLast).put l (.file bytes)

/-! ## Resolving paths -/

/-- The location that `pieces` of a path lead to from `l`. -/
def walk (t : Tree) (l : Location) : List (List UInt8) → Except Fault Location
  | [] => .ok l
  | piece :: rest =>
    match t.get? l with
    | none => .error .notFound
    | some (.file _) => .error .notDirectory
    | some .directory =>
      if Path.isIdle piece then t.walk l rest
      else if piece = [dot, dot] then t.walk l.dropLast rest
      else if nameLimit < piece.length then .error .nameTooLong
      else if (t.get? (l ++ [⟨piece⟩])).isSome then t.walk (l ++ [⟨piece⟩]) rest
      else .error .notFound

/-- Where a path starts: at the root directory or in the working directory. -/
def origin (t : Tree) (p : Path) : Location := if p.isAbsolute then [] else t.here

/-- The pieces of a path between its separators, with the location that they start from. -/
def start (t : Tree) (p : Path) : Except Fault (Location × List (List UInt8)) :=
  if p.text.bytes.isEmpty then .error .notFound
  else if p.text.bytes.contains 0 then .error .nulInPath
  else .ok (t.origin p, Text.pieces slash p.text.bytes)

/-- The location of what a path names. -/
def locate (t : Tree) (p : Path) : Except Fault Location := do
  let (l, pieces) ← t.start p
  t.walk l pieces

/-- The location that a path leads to, whether or not anything stands on the way. -/
def aim (t : Tree) (p : Path) : Location :=
  (Text.pieces slash p.text.bytes).foldl
    (fun l piece =>
      if Path.isIdle piece then l
      else if piece = [dot, dot] then l.dropLast
      else l ++ [⟨piece⟩])
    (t.origin p)

/-- What a path names. -/
def find? (t : Tree) (p : Path) : Option Entry :=
  match t.locate p with
  | .ok l => t.get? l
  | .error _ => none

/-- Whether a path names anything. -/
def has (t : Tree) (p : Path) : Bool := (t.find? p).isSome

/-- Whether a path names a file. -/
def hasFile (t : Tree) (p : Path) : Bool :=
  match t.find? p with
  | some (.file _) => true
  | _ => false

/-- The absolute path of a location. -/
def pathOf (l : Location) : Path := ⟨⟨slash :: Text.join [slash] (l.map RawText.bytes)⟩⟩

/-- The absolute path, free of `.` and `..`, of what a path names. -/
def canonical? (t : Tree) (p : Path) : Option Path :=
  match t.locate p with
  | .ok l => some (pathOf l)
  | .error _ => none

/-- The absolute path of the working directory, unless it has been removed. -/
def currentDirectory? (t : Tree) : Option Path :=
  if t.get? t.here = some .directory then some (pathOf t.here) else none

/-! ## Reading and writing -/

/-- The bytes of the file that a path names. -/
def read (t : Tree) (p : Path) : Except Fault ByteArray := do
  let l ← t.locate p
  match t.get? l with
  | some (.file bytes) => return bytes
  | some .directory => throw .isDirectory
  | none => throw .notFound

/-- The number of bytes from which on a path is too long for a file to be opened. -/
def pathLimit : Nat := 4096

/-- Refuses the paths by which no file can be opened. -/
def permit (p : Path) : Except Fault Unit :=
  if p.text.bytes.contains 0 then .error .nulInPath
  else if pathLimit ≤ p.text.bytes.length then .error .nameTooLong
  else .ok ()

/-- The bytes of a file that is opened to be read. -/
def load (t : Tree) (p : Path) : Except Fault ByteArray := do
  permit p
  t.read p

/-- The text of a file that is opened to be read. -/
def readText (t : Tree) (p : Path) : Except Fault String := do
  let bytes ← t.load p
  match String.fromUTF8? bytes with
  | some s => return s
  | none => throw .notText

/-- The location of the entry of a directory with a name, which must not be asked for as a
directory. -/
def entryAt (t : Tree) (d : Location) (name : List UInt8) (asDirectory : Bool) :
    Except Fault Location :=
  match t.get? d with
  | none => .error .notFound
  | some (.file _) => .error .notDirectory
  | some .directory =>
    if asDirectory then .error .isDirectory
    else if nameLimit < name.length then .error .nameTooLong
    else .ok (d ++ [⟨name⟩])

/-- The location of a file that is about to be written, and may be missing.  The root and paths
that end with a `.` or a `..` lead to directories, and one that ends with a separator asks for
one. -/
def locateNew (t : Tree) (p : Path) : Except Fault Location := do
  let (l, pieces) ← t.start p
  match pieces.reverse.dropWhile (·.isEmpty) with
  | [] => t.walk l pieces
  | last :: front =>
    if Path.isIdle last || last = [dot, dot] then t.walk l pieces
    else t.entryAt (← t.walk l front.reverse) last (pieces.getLast? = some [])

/-- The tree with a new file.  What exists is never replaced. -/
def create (t : Tree) (p : Path) (bytes : ByteArray) : Except Fault Tree := do
  permit p
  let l ← t.locateNew p
  if (t.get? l).isSome then throw .occupied
  return t.put l (.file bytes)

/-- The tree with the bytes of the file at `p`, which is created if it is missing. -/
def write (t : Tree) (p : Path) (bytes : ByteArray) : Except Fault Tree := do
  permit p
  let l ← t.locateNew p
  if t.get? l = some .directory then throw .isDirectory
  return t.put l (.file bytes)

/-! ## Below a directory -/

/-- The names directly inside a directory. -/
def names (t : Tree) (l : Location) : List RawText :=
  t.entries.filterMap fun e =>
    if e.1.dropLast = l then e.1.getLast? else none

end Tree
end SourceMend
