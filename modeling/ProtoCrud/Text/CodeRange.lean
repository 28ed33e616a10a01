/-!
# Sets of characters by code point

A property of characters is stored as a list of ranges of code points. Membership is decided
by a search through the list; the tables are short enough for that to be the whole story.
-/

namespace ProtoCrud.Text

/-- Whether a code point lies in one of the closed ranges. -/
def inRanges (ranges : List (Nat × Nat)) (code : Nat) : Bool :=
  ranges.any fun range ↦ range.1 ≤ code && code ≤ range.2

/-- The code points `first`, `first + step`, … up to `last`. -/
structure CodeRun where
  first : Nat
  last : Nat
  step : Nat
  deriving DecidableEq, Repr

def CodeRun.contains (run : CodeRun) (code : Nat) : Bool :=
  run.first ≤ code && code ≤ run.last && (code - run.first) % run.step == 0

def inRuns (runs : List CodeRun) (code : Nat) : Bool :=
  runs.any (·.contains code)

/-- A run whose members are all mapped to the code point `distance` further on. -/
structure CodeShift where
  run : CodeRun
  distance : Int
  deriving DecidableEq, Repr

/-- The image of a code point under the first shift that moves it. -/
def shifted? (shifts : List CodeShift) (code : Nat) : Option Nat :=
  (shifts.find? (·.run.contains code)).map fun shift ↦ ((code : Int) + shift.distance).toNat

end ProtoCrud.Text
