/-!
# Runs of code points

A set of characters given as the runs of code points that it fills.
-/

namespace Extrinsics.Text

/-- Whether a code point lies in one of the runs, ends included. -/
def inRuns (runs : List (Nat × Nat)) (n : Nat) : Bool :=
  runs.any fun run => run.1 ≤ n && n ≤ run.2

end Extrinsics.Text
