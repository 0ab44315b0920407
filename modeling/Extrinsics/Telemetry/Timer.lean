/-!
# Timers

A timer reports a duration when it is dropped, unless it is discarded.
-/

namespace Extrinsics

/-- The timers of one owner: how many there have been, and the numbers of those that still
run. -/
structure Timers where
  started : Nat
  running : List Nat
deriving DecidableEq

namespace Timers

/-- No timers. -/
def none : Timers := ⟨0, []⟩

/-- A new timer, and its number. -/
def start (t : Timers) : Timers × Nat := (⟨t.started + 1, t.running ++ [t.started]⟩, t.started)

/-- Whether a timer still runs. -/
def isRunning (t : Timers) (n : Nat) : Bool := t.running.contains n

/-- The timers without one of them. -/
def remove (t : Timers) (n : Nat) : Timers := { t with running := t.running.filter (· != n) }

/-- The timers after one was dropped, and the number of durations reported. -/
def drop (t : Timers) (n : Nat) : Timers × Nat :=
  (t.remove n, if t.isRunning n then 1 else 0)

/-- The timers after one was discarded, and the number of durations reported. -/
def discard (t : Timers) (n : Nat) : Timers × Nat := (t.remove n, 0)

end Timers

end Extrinsics
