import SourceMend.Discovery
import SourceMend.Proofs.Tree.Resolve

/-!
# The name of a file

A path that leads to a file ends with the name of the file
(`fileName?_of_locate`), so paths of one file have the same extension
(`hasExtension_congr`).
-/

namespace SourceMend

open RawText (slash dot)

/-- A piece at the end of a path that stands for a component is the last one after what the path
starts with. -/
theorem Path.getLast?_split {p : Path} {last : List UInt8}
    (h : (Text.pieces slash p.text.bytes).getLast? = some last) (hidle : isIdle last = false) :
    p.split.2.getLast? = some last := by
  have hstart := p.start
  generalize p.split = x at hstart
  cases hstart with
  | root r hr =>
    simpa [hr, Text.pieces, List.getLast?_cons_of_ne_nil (Text.pieces_ne_nil slash r)] using h
  | here hr =>
    obtain rfl : [dot] = last := by simpa [hr, Text.pieces] using h
    simp [isIdle] at hidle
  | below r hr =>
    have hne := Text.pieces_ne_nil slash r
    simpa [hr, Text.pieces, List.getLast?_cons_of_ne_nil hne] using h
  | bare => exact h

/-- The name of a path is its last piece, unless it is idle or goes up. -/
theorem Path.fileName?_of_getLast? {p : Path} {last : List UInt8}
    (h : (Text.pieces slash p.text.bytes).getLast? = some last) (hidle : isIdle last = false)
    (hup : last ≠ [dot, dot]) : p.fileName? = some ⟨last⟩ := by
  obtain ⟨before, hbefore⟩ := List.getLast?_eq_some_iff.1 (getLast?_split h hidle)
  simp [fileName?, reversedPieces, hbefore, hidle, hup]

namespace Tree

variable {t : Tree} {p q : Path} {l : Location}

theorem LeadsInto.fileName? {d : Location} {last : List UInt8} (h : t.LeadsInto p d last) :
    p.fileName? = some ⟨last⟩ := by
  obtain ⟨init, hs, -⟩ := h.cut
  have hcut : Text.pieces slash p.text.bytes = init ++ [last] :=
    ((Prod.mk.inj (start_eq_ok hs).1).2).symm
  exact Path.fileName?_of_getLast? (by rw [hcut, List.getLast?_concat]) h.idle h.up

/-- The path of a file ends with the name of the file. -/
theorem fileName?_of_locate {bytes : ByteArray} (h : t.locate p = .ok l)
    (hfile : t.get? l = some (.file bytes)) : p.fileName? = l.getLast? := by
  obtain ⟨d, last, hlead, rfl⟩ := leadsInto_of_locate h hfile
  rw [hlead.fileName?, List.getLast?_concat]

theorem hasExtension_congr {bytes : ByteArray} (hp : t.locate p = .ok l) (hq : t.locate q = .ok l)
    (hfile : t.get? l = some (.file bytes)) (extensions : List String) :
    p.hasExtension extensions = q.hasExtension extensions := by
  simp [Path.hasExtension, Path.extension?, fileName?_of_locate hp hfile,
    fileName?_of_locate hq hfile]

/-- The name of a child is the name that was put at the end. -/
theorem fileName?_child {n : RawText} (hp : p.text.bytes ≠ []) (hn : isName n = true) :
    (p.child n).fileName? = some n := by
  obtain ⟨hidle, hup, hslash, -, -⟩ := isName_iff.1 hn
  have hlast : (Text.pieces slash (p.child n).text.bytes).getLast? = some n.bytes := by
    rcases bytes_child hp hn with h | ⟨a, -, h⟩
    · rw [h, Text.pieces_append_cons, Text.pieces_of_not_mem hslash, List.getLast?_concat]
    · rw [h, Text.pieces_append_cons, Text.pieces_of_not_mem hslash, List.getLast?_concat]
  exact Path.fileName?_of_getLast? hlast hidle hup

end Tree
end SourceMend
