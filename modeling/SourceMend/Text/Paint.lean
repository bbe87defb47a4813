/-!
# Coloured text

A terminal shows text in colour when it stands between control sequences.
`paint` writes them if colours are wanted, and otherwise leaves the text alone.
-/

namespace SourceMend.Text

/-- How a piece of text is shown. -/
inductive Paint where
  /-- In bold. -/
  | bold
  /-- In red. -/
  | red
  /-- In green. -/
  | green
  /-- In yellow. -/
  | yellow
  /-- In blue. -/
  | blue
  /-- In cyan. -/
  | cyan
  deriving DecidableEq, Repr

/-- The control sequence with a number. -/
def control (n : Nat) : String := "\x1b[" ++ toString n ++ "m"

namespace Paint

/-- The numbers of the sequences before and after a piece of text. -/
def codes : Paint → Nat × Nat
  | bold => (1, 0)
  | red => (31, 39)
  | green => (32, 39)
  | yellow => (33, 39)
  | blue => (34, 39)
  | cyan => (36, 39)

/-- A piece of text between the sequences of a paint. -/
def apply (p : Paint) (s : String) : String := control p.codes.1 ++ s ++ control p.codes.2

end Paint

/-- A piece of text with some paints, the first innermost, if colours are wanted. -/
def paint (color : Bool) (ps : List Paint) (s : String) : String :=
  if color then ps.foldl (fun s p => p.apply s) s else s

end SourceMend.Text
