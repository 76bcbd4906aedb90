import OverlayControl.Shell.Client

/-!
# A root shell in memory

A program that opens a root shell, whose runs are planned in advance. Runs beyond the plan print
nothing and end well. Beside it there is a plain shell, and no other program.
-/

namespace OverlayControl.Simulation

open Shell

/-- A root shell with planned runs. -/
structure RootShell where
  /-- The path of the program. -/
  path : Path
  /-- The next runs. -/
  runs : List Run := []
  /-- The arguments of the runs so far, in order. -/
  calls : List (List String) := []

namespace RootShell

/-- Runs the root shell or the plain shell; no other program is known. -/
def run? (program : Path) (args : List String) (s : RootShell) : Option (Run × RootShell) :=
  if program = s.path then
    let result := s.runs.head?.getD (.ended (some 0) [] [])
    some (result, { s with runs := s.runs.drop 1, calls := s.calls ++ [args] })
  else if program = .ofString "sh" then some (.ended (some 0) [] [], s)
  else none

end RootShell

end OverlayControl.Simulation
