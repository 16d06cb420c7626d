import TaskOrchestration.Operation.Journal
import TaskOrchestration.WorkUnit.Run

/-!
# Sessions

What a host does with a unit over time. In a session it makes one call after the other on the same
unit. In a life it may also let go of the unit between two calls, keep its record as JSON, and take
up a new unit from that record. A chronicle tells the same of a host that may change the policy with
each new unit, and notes the state in which every move finds the unit.

`Reachable` are the units that come out of any life, whatever the remote answers; `Arises` are those
that a record of any content leads to as well. A `History` keeps what was seen of every call on the
way from one unit to another. `pollEnds` lists how the polls of a chronicle ended.
-/

namespace TaskOrchestration

/-- A call of the host on a unit. -/
inductive Request
  /-- To run the unit. -/
  | run (event : RunRequest)
  /-- To cancel the unit. -/
  | cancel
  deriving DecidableEq, Repr

/-- What is seen of one call on a unit. -/
structure Turn where
  /-- What the unit answered. -/
  answer : Except OrchestrationError Outcome
  /-- What the unit asked of its remote, the first contact first. -/
  contacts : List Contact
  /-- The record of the unit after the call. -/
  record : OutputRecord
  /-- What the unit logged. -/
  log : List LogEvent

/-- A step in the life of a unit. -/
inductive HostStep
  /-- A call of the host. -/
  | request (q : Request)
  /-- The unit is replaced by one that is taken up from its record. -/
  | reload
  deriving DecidableEq, Repr

/-- The call of a step, if it is one. -/
def HostStep.request? : HostStep → Option Request
  | .request q => some q
  | .reload => none

/-- A move of the host: a call on its unit, or a new unit in the place of the old one, taken up from
its record under any policy. -/
inductive Move
  | call (q : Request)
  | takeUp (policy : Policy)

/-- A move as it went: the state in which it found the unit, and what was seen of a call. -/
inductive Episode
  | call (found : Lifecycle.State) (q : Request) (turn : Turn)
  | takeUp (found : Lifecycle.State) (policy : Policy)

/-- What a call says that asks the host to wait. -/
structure Pause where
  /-- How often the unit has polled by then. -/
  polls : UInt32
  /-- The delay that is suggested, in milliseconds. -/
  delayMs : UInt64
  deriving DecidableEq, Repr

namespace Episode

/-- The move that was made. -/
def move : Episode → Move
  | .call _ q _ => .call q
  | .takeUp _ policy => .takeUp policy

/-- The state in which the move found the unit. -/
def found : Episode → Lifecycle.State
  | .call found _ _ | .takeUp found _ => found

/-- What was asked of the remote. -/
def contacts : Episode → List Contact
  | .call _ _ turn => turn.contacts
  | .takeUp _ _ => []

/-- The pause that a call asks for, if it does. -/
def pause? : Episode → Option Pause
  | .call _ _ turn =>
    match turn.answer with
    | .ok (.suspend delayMs) => some { polls := turn.record.pollCounters.total, delayMs }
    | _ => none
  | .takeUp _ _ => none

/-- Whether the unit had not ended when the move was made. -/
def isOpen (e : Episode) : Bool := !e.found.isFinal

/-- Whether the move was a run to be skipped. -/
def isSkip : Episode → Bool
  | .call _ (.run .skip) _ => true
  | _ => false

end Episode

/-- The episodes before the unit had ended, without the runs that were skipped. -/
def effective (episodes : List Episode) : List Episode :=
  (episodes.takeWhile Episode.isOpen).filter fun e => !e.isSkip

/-- How a poll ended: with the error that cut its lookups short, or with an answer to each. -/
abbrev PollEnd := Option OrchestrationError

/-- How many polls have ended in a transport error since the last one whose lookups all
succeeded. -/
def missedPolls (ends : List PollEnd) : Nat :=
  (ends.reverse.takeWhile Option.isSome).countP fun e => e.any OrchestrationError.isRetryable

namespace WorkUnit

variable {σ : Type}

/-- Answers a call of the host. -/
def serve (r : Remote σ) : Request → WorkUnit → σ → Phase Outcome × σ
  | .run event, u, s => u.run r event s
  | .cancel, u, s => u.cancel r s

/-- Answers a call of the host, with all that is seen of it. -/
def attend (r : Remote σ) (q : Request) (u : WorkUnit) (s : σ) : Turn × WorkUnit × σ :=
  let (p, j) := u.serve r.journaled q { state := s }
  ({ answer := p.result, contacts := j.contacts, record := p.unit.record, log := p.log },
    p.unit, j.state)

/-- The unit taken up again from its own record, under the same policy. -/
def reload (u : WorkUnit) : Except DecodeError WorkUnit := ofRecordJson u.policy u.record.toJson

/-- Calls on one unit, one after the other. -/
def session (r : Remote σ) : List Request → WorkUnit → σ → List Turn × WorkUnit × σ
  | [], u, s => ([], u, s)
  | q :: rest, u, s =>
    let (turn, u, s) := u.attend r q s
    let (turns, u, s) := session r rest u s
    (turn :: turns, u, s)

/-- Calls on a unit that is taken up anew from its record wherever the steps say so. -/
def life (r : Remote σ) :
    List HostStep → WorkUnit → σ → Except DecodeError (List Turn × WorkUnit × σ)
  | [], u, s => .ok ([], u, s)
  | .reload :: rest, u, s => do
    let u ← u.reload
    life r rest u s
  | .request q :: rest, u, s => do
    let (turn, u, s) := u.attend r q s
    let (turns, u, s) ← life r rest u s
    return (turn :: turns, u, s)

/-- Moves of the host, one after the other, each with the state in which it finds the unit. -/
def chronicle (r : Remote σ) :
    List Move → WorkUnit → σ → Except DecodeError (List Episode × WorkUnit × σ)
  | [], u, s => .ok ([], u, s)
  | .call q :: rest, u, s => do
    let (turn, v, s) := u.attend r q s
    let (episodes, w, s) ← chronicle r rest v s
    return (.call u.state q turn :: episodes, w, s)
  | .takeUp policy :: rest, u, s => do
    let v ← ofRecordJson policy u.record.toJson
    let (episodes, w, s) ← chronicle r rest v s
    return (.takeUp u.state policy :: episodes, w, s)

/-- The units that any sequence of calls and reloads makes of a fresh one. Every call may meet
another remote, so nothing is supposed of the answers. -/
inductive Reachable : WorkUnit → Prop
  | fresh (policy : Policy) : Reachable { policy }
  | serve {u : WorkUnit} {σ : Type} (r : Remote σ) (q : Request) (s : σ) :
      Reachable u → Reachable (u.serve r q s).1.unit
  | reload {u v : WorkUnit} (policy : Policy) :
      Reachable u → ofRecordJson policy u.record.toJson = .ok v → Reachable v

/-- The units that any sequence of calls makes of a fresh one or of one taken up from any record. -/
inductive Arises : WorkUnit → Prop
  | fresh (policy : Policy) : Arises { policy }
  | ofRecord (policy : Policy) (record : OutputRecord) : Arises (ofRecord policy record)
  | serve {u : WorkUnit} {σ : Type} (r : Remote σ) (q : Request) (s : σ) :
      Arises u → Arises (u.serve r q s).1.unit

/-- What was seen of a unit since it was `u`: the calls with their turns, the first one first. Every
call may meet another remote and every reload may bring another policy. -/
inductive History (u : WorkUnit) : List (Request × Turn) → WorkUnit → Prop
  | start : History u [] u
  | call {past : List (Request × Turn)} {v : WorkUnit} {σ : Type} (r : Remote σ) (q : Request)
      (s : σ) :
      History u past v → History u (past ++ [(q, (v.attend r q s).1)]) (v.attend r q s).2.1
  | reload {past : List (Request × Turn)} {v w : WorkUnit} (policy : Policy) :
      History u past v → ofRecordJson policy v.record.toJson = .ok w → History u past w

/-- What the lookups of a call make of the tasks and groups, and the error that ended them. A call
to cancel asks for the cancellation of everything first. -/
def lookups (r : Remote σ) (q : Request) (u : WorkUnit) (s : σ) :
    WorkUnit × Option OrchestrationError × σ :=
  match q with
  | .run _ => u.refresh r.backend s
  | .cancel => u.refresh r.backend (u.cancelTracked r.backend s)

/-- The error that ended what a call asks before it judges the unit: the invocation of the
operation, or the lookups of a poll. -/
def interruption (r : Remote σ) (q : Request) (u : WorkUnit) (s : σ) :
    Option OrchestrationError :=
  if u.isInitiated then (u.lookups r q s).2.1
  else
    match r.operation.invoke s with
    | (.ok _, _) => none
    | (.error e, _) => some e

/-- What lookups have left, and the remote after them. The groups that the tasks reveal are
discovered unless an error cut the lookups short. -/
def broughtIn : WorkUnit × Option OrchestrationError × σ → WorkUnit × σ
  | (u, none, s) => (u.discover, s)
  | (u, some _, s) => (u, s)

/-- The unit that a call comes to judge, and the remote at that time: with the tasks of the
operation's answer, or with what the lookups have left. -/
def gathered (r : Remote σ) (q : Request) (u : WorkUnit) (s : σ) : WorkUnit × σ :=
  if u.isInitiated then broughtIn (u.lookups r q s)
  else
    match r.operation.invoke s with
    | (.ok response, s) => ({ u with tasks := some response.tasks }.discover, s)
    | (.error _, s) => (u, s)

/-- How the poll of a call ended. A call polls if it is not to be skipped and finds a unit that has
not ended and whose operation has answered; the run that starts the work is no poll. -/
def pollEnd? (r : Remote σ) (q : Request) (u : WorkUnit) (s : σ) : Option PollEnd :=
  if u.isInitiated && !u.state.isFinal && q != .run .skip then some (u.lookups r q s).2.1 else none

/-- How the polls of a host's moves ended, the first one first. -/
def pollEnds (r : Remote σ) : List Move → WorkUnit → σ → List PollEnd
  | [], _, _ => []
  | .call q :: rest, u, s =>
    (u.pollEnd? r q s).toList ++ pollEnds r rest (u.attend r q s).2.1 (u.attend r q s).2.2
  | .takeUp policy :: rest, u, s => pollEnds r rest (ofRecord policy u.record) s

end WorkUnit

end TaskOrchestration
