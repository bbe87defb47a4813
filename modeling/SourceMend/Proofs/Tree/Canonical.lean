import SourceMend.Proofs.Path.Along
import SourceMend.Proofs.Path.Ancestors
import SourceMend.Proofs.Text.Trim
import SourceMend.Proofs.Tree.Alike

/-!
# The absolute path of a location

The absolute path of what exists has its names as components (`components_pathOf`), so
different locations have absolute paths that are not alike (`eq_of_alike_pathOf`).  A path
alike to one of these leads to the location, unless it ends with a separator or a dot
after one (`locate_of_alike_pathOf`): behind the name of a file these lead nowhere, and the
components do not show them.  The ancestors of the absolute path of a location are those of
the locations on the way to it (`ancestors_pathOf`).
-/

namespace SourceMend

open RawText (slash dot)

namespace Tree

variable {t : Tree} {p q : Path} {l m d : Location} {n : RawText} {e : Entry}

/-- The pieces of the absolute path of a location after the root are its names. -/
theorem split_pathOf (h : ∀ n ∈ l, isName n = true) (hl : l ≠ []) :
    (pathOf l).split = ([slash], l.map RawText.bytes) := by
  rw [Path.split_of_bytes (r := (Path.along l).text.bytes) (by simp [pathOf, Path.along]),
    Path.pieces_along h hl]

/-- The absolute path of a location is that of its names, read from the root. -/
theorem pathOf_eq_join (h : ∀ n ∈ l, isName n = true) (hl : l ≠ []) :
    pathOf l = Path.join ⟨"/"⟩ (Path.along l) := by
  have habs := Path.isAbsolute_along h hl
  refine Path.ext (RawText.ext ?_)
  rw [Path.join, habs]
  simp [pathOf, Path.along]

/-- The absolute path of a location has its names as components. -/
theorem components_pathOf (h : ∀ n ∈ l, isName n = true) :
    (pathOf l).components = .root :: l.map .name := by
  by_cases hl : l = []
  · subst hl
    decide
  · have hroot : Path.components ⟨"/"⟩ = [.root] := by decide
    rw [pathOf_eq_join h hl, Path.components_join_along h hl, hroot, List.singleton_append]

/-! ## Existing locations -/

theorem isName_of_get? (h : t.get? l = some e) : ∀ n ∈ l, isName n = true := by
  induction l using List.reverseRecOn generalizing e with
  | nil => exact fun n hn => nomatch hn
  | append_singleton d n ih =>
    obtain ⟨hn, hd⟩ := get?_parent h
    exact List.forall_mem_append.2 ⟨ih hd, List.forall_mem_singleton.2 hn⟩

/-- Different locations have absolute paths that are not alike. -/
theorem eq_of_alike_pathOf (hl : (t.get? l).isSome) (hm : (t.get? m).isSome)
    (h : (pathOf l).Alike (pathOf m)) : l = m := by
  obtain ⟨_, hl⟩ := Option.isSome_iff_exists.1 hl
  obtain ⟨_, hm⟩ := Option.isSome_iff_exists.1 hm
  have hnames : l.map Path.Component.name = m.map .name := by
    rw [Path.Alike, components_pathOf (isName_of_get? hl),
      components_pathOf (isName_of_get? hm)] at h
    exact (List.cons.inj h).2
  exact List.map_injective_iff.2 (fun _ _ => Path.Component.name.inj) hnames

/-! ## The locations on the way -/

theorem parent?_pathOf_nil : (pathOf []).parent? = none := by decide

/-- The parent of the absolute path of a location is that of the directory that it is in. -/
theorem parent?_pathOf (h : ∀ m ∈ d ++ [n], isName m = true) :
    (pathOf (d ++ [n])).parent? = some (pathOf d) := by
  have hidle : ∀ m ∈ d ++ [n], Path.isIdle m.bytes = false := fun m hm =>
    (isName_iff.1 (h m hm)).1
  have hsplit := split_pathOf h (List.append_ne_nil_of_right_ne_nil d (List.cons_ne_nil n []))
  have hbefore : ∀ piece ∈ (d.map RawText.bytes).reverse, Path.isIdle piece = false := by
    intro piece hpiece
    obtain ⟨m, hm, rfl⟩ := List.mem_map.1 (List.mem_reverse.1 hpiece)
    exact hidle m (List.mem_append_left _ hm)
  have hreversed : (pathOf (d ++ [n])).reversedPieces
      = n.bytes :: (d.map RawText.bytes).reverse := by
    rw [Path.reversedPieces, hsplit]
    simp [hidle n (by simp)]
  rw [Path.parent?, hreversed]
  simp only [hsplit, Text.dropWhile_eq_self hbefore, List.reverse_reverse]
  rfl

/-- The ancestors of the absolute path of a location belong to the location and those on the way to
it, up to the root directory. -/
theorem ancestors_pathOf (h : ∀ n ∈ l, isName n = true) :
    (pathOf l).ancestors = l.inits.reverse.map pathOf := by
  induction l using List.reverseRecOn with
  | nil => rw [Path.ancestors_of_no_parent parent?_pathOf_nil]; rfl
  | append_singleton d n ih =>
    have hd : ∀ m ∈ d, isName m = true := fun m hm => h m (List.mem_append_left _ hm)
    rw [Path.ancestors_of_parent? (parent?_pathOf h), ih hd, List.inits_append]
    simp

/-! ## Paths alike to an absolute one -/

/-- The names of what exists lead there from the root. -/
theorem locate_foldl_child_root (h : t.get? l = some e) :
    t.locate (l.foldl Path.child ⟨"/"⟩) = .ok l := by
  have hroot : t.locate ⟨"/"⟩ = .ok [] := by
    simp [locate, start, origin, Path.isAbsolute, Text.pieces, walk, get?_nil, Path.isIdle, bind,
      Except.bind]
  exact locate_foldl_child hroot (get?_nil t) h

/-- Whether a path ends with a separator, or with a dot after one. -/
def Trails (p : Path) : Prop :=
  ∃ u, p.text.bytes = u ++ [slash] ∨ p.text.bytes = u ++ [slash, dot]

/-- An absolute path does not end with an idle piece, unless it ends with a separator or a dot after
one. -/
theorem not_idle_of_not_trails (habs : p.isAbsolute = true) (h : ¬Trails p) {last : List UInt8}
    (hlast : (Text.pieces slash p.text.bytes).getLast? = some last) : Path.isIdle last = false := by
  refine Bool.eq_false_iff.2 fun hidle => h ?_
  obtain ⟨init, hcut⟩ := List.getLast?_eq_some_iff.1 hlast
  have hinit : init ≠ [] := by
    rintro rfl
    cases htext : p.text.bytes with
    | nil => simp [Path.isAbsolute, htext] at habs
    | cons c r =>
      obtain rfl : c = slash := by simpa [Path.isAbsolute, htext] using habs
      have hne := Text.pieces_ne_nil slash r
      simp [htext, Text.pieces, hne] at hcut
  obtain ⟨u, hu⟩ := Text.exists_append_of_pieces hinit hcut
  simp only [Path.isIdle, Bool.or_eq_true, beq_iff_eq] at hidle
  rcases hidle with rfl | rfl
  · exact ⟨u, .inl hu⟩
  · exact ⟨u, .inr hu⟩

/-- A path alike to the absolute path of what exists leads there, unless it ends with a separator or
a dot after one. -/
theorem locate_of_alike_pathOf (h : t.get? l = some e) (hq : q.Alike (pathOf l))
    (htrails : ¬Trails q) : t.locate q = .ok l := by
  have hnames := isName_of_get? h
  have hcomponents : q.components = .root :: l.map .name := hq.trans (components_pathOf hnames)
  have halike : (l.foldl Path.child ⟨"/"⟩).Alike q :=
    (Path.components_foldl_child hnames ⟨"/"⟩).trans hcomponents.symm
  exact locate_alike halike (locate_foldl_child_root h) fun _ =>
    not_idle_of_not_trails (Path.isAbsolute_of_components hcomponents) htrails

/-- A path that ends with a separator or a dot after one ends with an idle piece. -/
theorem idle_of_trails (h : Trails p) : ∃ init last,
    Text.pieces slash p.text.bytes = init ++ [last] ∧ Path.isIdle last = true := by
  obtain ⟨u, hu | hu⟩ := h
  · exact ⟨Text.pieces slash u, [], by rw [hu, Text.pieces_append_cons]; rfl, rfl⟩
  · exact ⟨Text.pieces slash u, [dot], by rw [hu, Text.pieces_append_cons]; rfl, rfl⟩

theorem not_trails_pathOf (h : ∀ n ∈ l, isName n = true) (hl : l ≠ []) : ¬Trails (pathOf l) := by
  intro htrails
  obtain ⟨init, last, hcut, hidle⟩ := idle_of_trails htrails
  rw [pathOf_eq_join h hl] at hcut
  have hlast := Path.not_idle_of_join_along h hl ⟨"/"⟩ (by rw [hcut, List.getLast?_concat])
  exact Bool.false_ne_true (hlast.symm.trans hidle)

/-- The absolute path of what exists leads there. -/
theorem locate_pathOf (h : t.get? l = some e) : t.locate (pathOf l) = .ok l := by
  by_cases hl : l = []
  · subst hl
    exact locate_foldl_child_root h
  · exact locate_of_alike_pathOf h rfl (not_trails_pathOf (isName_of_get? h) hl)

end Tree
end SourceMend
