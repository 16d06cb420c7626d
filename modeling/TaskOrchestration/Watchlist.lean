import TaskOrchestration.Group.Tracking

/-!
# All that is tracked

The tasks and groups somebody waits for, seen as one list: the tasks first, then the groups, each in
the order in which they were found.
-/

namespace TaskOrchestration

/-- A tracked task or group. -/
inductive Tracked
  | task (task : TaskReport)
  | group (group : TrackedGroup)

namespace Tracked

/-- The reference by which the backend knows it. -/
def href : Tracked → String
  | .task t => t.href
  | .group g => g.href

/-- How it is called. -/
def title : Tracked → Option String
  | .task t => t.title
  | .group g => g.title

/-- Whether the backend picked it up. -/
def isStarted : Tracked → Bool
  | .task t => t.isStarted
  | .group g => g.isStarted

/-- Whether it is over. -/
def isDone : Tracked → Bool
  | .task t => t.isDone
  | .group g => g.isDone

/-- Its error message. -/
def errorMessage? : Tracked → Option String
  | .task t => t.errorMessage?
  | .group g => g.errorMessage?

/-- Whether it is a group. -/
def isGroup : Tracked → Bool
  | .task _ => false
  | .group _ => true

end Tracked

/-- Tasks and groups that are waited for together. -/
structure Watchlist where
  /-- The tasks. -/
  tasks : List TaskReport
  /-- The groups. -/
  groups : List TrackedGroup

namespace Watchlist

/-- All members, tasks before groups. -/
def members (v : Watchlist) : List Tracked := v.tasks.map .task ++ v.groups.map .group

/-- The number of members. -/
def size (v : Watchlist) : Nat := v.members.length

/-- Tasks and groups are counted together. -/
theorem size_eq (v : Watchlist) : v.size = v.tasks.length + v.groups.length := by
  simp [size, members]

/-- Whether there is no member. -/
def isEmpty (v : Watchlist) : Bool := v.members.isEmpty

/-- Whether there are members and all of them are done. -/
def allDone (v : Watchlist) : Bool := !v.isEmpty && v.members.all Tracked.isDone

/-- All is done when there is a member, and every task and every group is done. -/
theorem allDone_iff (v : Watchlist) :
    v.allDone = true ↔
      v.isEmpty = false ∧ (∀ t ∈ v.tasks, t.isDone = true) ∧ ∀ g ∈ v.groups, g.isDone = true := by
  simp [allDone, members, Tracked.isDone]

/-- The first member with an error: its reference and its message. -/
def reportedError? (v : Watchlist) : Option (String × String) :=
  v.members.findSome? fun m => m.errorMessage?.map fun message => (m.href, message)

/-- The first member that is started and not done. -/
def runningMember? (v : Watchlist) : Option Tracked :=
  v.members.find? fun m => m.isStarted && !m.isDone

/-- The first member that is neither started nor done. -/
def waitingMember? (v : Watchlist) : Option Tracked :=
  v.members.find? fun m => !m.isStarted && !m.isDone

/-- Whether a group of this reference is among the members. -/
def hasGroup (v : Watchlist) (href : String) : Bool := v.groups.any fun g => g.href == href

end Watchlist

end TaskOrchestration
