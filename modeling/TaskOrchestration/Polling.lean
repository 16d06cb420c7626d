/-!
# Polling

How long to wait between two polls. The delay moves on to the next interval after a fixed number of
polls and stays at the last one.
-/

namespace TaskOrchestration

/-- One more, unless that is more than 32 bits hold. -/
def saturatingSucc (n : UInt32) : UInt32 := if n = UInt32.ofNat (UInt32.size - 1) then n else n + 1

/-- Counting stops at the greatest number of 32 bits. -/
theorem toNat_saturatingSucc (n : UInt32) :
    (saturatingSucc n).toNat = min (n.toNat + 1) (UInt32.size - 1) := by
  unfold saturatingSucc
  split
  · next h => subst h; decide
  · next h =>
    have : n.toNat ≠ UInt32.size - 1 := fun e => h (UInt32.toNat_inj.mp (by simpa using e))
    have := n.toNat_lt
    have size : UInt32.size = 4294967296 := rfl
    rw [UInt32.toNat_add]
    simp; omega

/-- How often a unit has polled. -/
structure PollCounters where
  /-- The number of polls since the work was started. -/
  total : UInt32 := 0
  /-- The number of polls in a row that ended in a transport error. -/
  failed : UInt32 := 0
  deriving DecidableEq, Repr

/-- The settings of polling. -/
structure PollingSettings where
  /-- The delays in milliseconds. -/
  intervalsMs : List UInt64 := [500, 1000, 2000, 4000, 8000, 16000]
  /-- The number of polls spent on each delay. -/
  attemptsBeforeNextInterval : UInt32 := 5
  /-- How many polls in a row may end in a transport error before one is reported. -/
  maxFailedPolls : UInt32 := 3
  deriving DecidableEq, Repr

/-- Delays and the number of polls spent on each. -/
structure Schedule where
  /-- The delays in milliseconds. -/
  intervalsMs : List UInt64
  /-- The number of polls spent on each delay. -/
  pollsPerInterval : UInt32
  /-- At least one poll is spent on each delay. -/
  pollsPerInterval_pos : 0 < pollsPerInterval

namespace Schedule

/-- The schedule of given delays; one poll is spent on each if `polls` says none. -/
def make (intervalsMs : List UInt64) (polls : UInt32) : Schedule :=
  if h : 0 < polls then ⟨intervalsMs, polls, h⟩ else ⟨intervalsMs, 1, by decide⟩

/-- The schedule of the settings. -/
def ofSettings (s : PollingSettings) : Schedule :=
  make s.intervalsMs s.attemptsBeforeNextInterval

/-- The delay before the next poll in milliseconds after `total` polls; none without intervals. -/
def delayAfter (s : Schedule) (total : UInt32) : UInt64 :=
  match s.intervalsMs[(total / s.pollsPerInterval).toNat]? with
  | some delay => delay
  | none => s.intervalsMs.getLast?.getD 0

end Schedule

namespace PollCounters

/-- The counters at the start of a poll. -/
def countPoll (c : PollCounters) : PollCounters := { c with total := saturatingSucc c.total }

/-- The counters after a transport error. -/
def countFailure (c : PollCounters) : PollCounters := { c with failed := saturatingSucc c.failed }

/-- The counters after a poll whose lookups all succeeded. -/
def countSuccess (c : PollCounters) : PollCounters := { c with failed := 0 }

end PollCounters

end TaskOrchestration
