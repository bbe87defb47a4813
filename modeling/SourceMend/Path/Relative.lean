import SourceMend.Path

/-!
# One path seen from another

`Path.relativeTo? p base` is the path that leads from `base` to `p`.  Common
leading components are dropped, and every component of `base` that is left
becomes a `..`.  There is no such path when only `base` is absolute, or when a
`..` of `base` would have to be undone.

`Path.shown` is the form that reports use: the relative path if there is one
that is not empty, else the path itself, as a string with every backslash
written as a slash.
-/

namespace SourceMend.Path

/-- The steps from `base` to `path` after at least one step has been written. -/
def stepsAfterFirst : List Component → List Component → Option (List Component)
  | as, [] => some as
  | [], _ :: bs => (stepsAfterFirst [] bs).map (.up :: ·)
  | a :: as, .here :: bs => (stepsAfterFirst as bs).map (a :: ·)
  | _ :: _, .up :: _ => none
  | a :: as, _ :: bs => some (.up :: bs.map (fun _ => .up) ++ a :: as)

/-- The steps from `base` to `path`. -/
def steps : List Component → List Component → Option (List Component)
  | a :: as, b :: bs => if a = b then steps as bs else stepsAfterFirst (a :: as) (b :: bs)
  | as, bs => stepsAfterFirst as bs

/-- The path from `base` to `p`. -/
def relativeTo? (p base : Path) : Option Path :=
  if p.isAbsolute = base.isAbsolute then
    (steps p.components base.components).map ofComponents
  else if p.isAbsolute then some p
  else none

/-- The text that reports use for `p` in a run over `base`. -/
def shown (p base : Path) : String :=
  let rel := ((p.relativeTo? base).filter (!·.text.bytes.isEmpty)).getD p
  rel.display.map fun c => if c = '\\' then '/' else c

end SourceMend.Path
