import WasmDeploy.Client.Request
import WasmDeploy.Fault
import WasmDeploy.FileTree

/-!
# The world of a deployment

This file gives what surrounds a deployment: the files, a clock that moves with calls and sleeps, a request
to cancel, the state of the endpoint, and a journal of everything that can be observed. An operation runs in
a world and ends with a value or a fault.
-/

namespace WasmDeploy

/-- How much a log record matters. -/
inductive Severity where
  | debug
  | info
  | warning
  | error
deriving DecidableEq, Repr, Inhabited

/-- The part of the deployment that a log record comes from. -/
inductive Component where
  | artifact
  | builder
  | submission
  | tracking
  | endpoint
  | deployment
deriving DecidableEq, Repr, Inhabited

/-- The message of a log record: its text, or the fault that writing it down ends with. -/
abbrev Message := Except Fault String

/-- What can be observed of an operation. A request is observed when it is made, and again with what came
back when it is over. -/
inductive Event where
  | log (severity : Severity) (component : Component) (message : Message)
  | call (request : Request)
  | reply (request : Request) (outcome : Except Fault request.Reply)
  | post (url : String) (body : Datum) (timeout : Measure)
  | sleep (duration : Measure)
  | close
deriving Inhabited

/-- An event, with the time on the clock and the state of the tracker when it happened, if there was a
tracker. -/
structure Entry where
  time : Measure
  tracking : Option TrackingState
  event : Event
deriving Inhabited

/-- A request to cancel, by whether it is in place once so many calls and so many sleeps were made. Between
two looks at it there is always a call, so any course of events can be told by these counts. -/
structure Cancellation where
  isInPlace : (calls sleeps : Nat) → Bool
deriving Inhabited

namespace Cancellation

/-- A request that comes once so many calls were made. -/
def afterCalls (count : Nat) : Cancellation :=
  ⟨fun calls _ => count ≤ calls⟩

/-- A request that comes once so many sleeps were made. -/
def afterSleeps (count : Nat) : Cancellation :=
  ⟨fun _ sleeps => count ≤ sleeps⟩

end Cancellation

/-- What a deployment finds and does not change. A call moves the clock from the time it starts at to the one
that `elapse` gives for its place among the calls, if the clock can show it. The horizon is how often a loop
may poll before it is given up as unfinished. -/
structure Surroundings where
  files : FileTree File
  elapse : (call : Nat) → (start : Measure) → Option Measure
  cancellation : Option Cancellation
  horizon : Nat

/-- What surrounds a deployment, and what has happened there so far. -/
structure World (σ : Type) extends Surroundings where
  now : Measure
  endpoint : σ
  calls : Nat
  sleeps : Nat
  posts : Nat
  tracking : Option TrackingState
  journal : Array Entry

/-- An operation in a world. -/
abbrev Run (σ : Type) := ExceptT Fault (StateM (World σ))

namespace World

variable {σ : Type}

/-- Whether cancelling has been asked for. -/
def isCancelled (world : World σ) : Bool :=
  world.cancellation.any fun cancellation => cancellation.isInPlace world.calls world.sleeps

/-- The world with one more event in its journal. -/
def record (world : World σ) (event : Event) : World σ :=
  { world with journal := world.journal.push ⟨world.now, world.tracking, event⟩ }

/-- The world after a call that ends at a time. -/
def afterCall (world : World σ) (finish : Measure) : World σ :=
  { world with calls := world.calls + 1, now := finish }

/-- The world after a sleep that ends at a time. -/
def afterSleep (world : World σ) (finish : Measure) : World σ :=
  { world with sleeps := world.sleeps + 1, now := finish }

/-- The world with the tracker in a state. -/
def entering (world : World σ) (state : TrackingState) : World σ :=
  { world with tracking := some state }

/-- Only the last state counts. -/
@[simp] theorem entering_entering (world : World σ) (first second : TrackingState) :
    (world.entering first).entering second = world.entering second := rfl

/-- The clock shows the same time in whatever state the tracker is. -/
@[simp] theorem now_entering (world : World σ) (state : TrackingState) :
    (world.entering state).now = world.now := rfl

end World

namespace Run

variable {σ : Type}

/-- Records an event. -/
def record (event : Event) : Run σ Unit :=
  modify (·.record event)

/-- Hands over a log record. Whether its message can be written down is up to those who read the journal: a
record that cannot be is handed over all the same, and the operation goes on. -/
def log (severity : Severity) (component : Component) (message : Message) : Run σ Unit :=
  record (.log severity component message)

/-- A time that the clock can show. A clock of binary64 numbers cannot show the end of a duration that is
past all of them. -/
def showable (time : Option Measure) : Except Fault Measure :=
  match time with
  | some time => .ok time
  | none => reject .beyondFloat

/-- The time on the clock once a duration has passed. -/
def timeAfter (duration : Measure) : Run σ Measure := do
  (showable ((← get).now.add? duration) : Except Fault _)

/-- Counts a call and lets its time pass. -/
def passCall : Run σ Unit := do
  let world ← get
  let finish ← (showable (world.elapse world.calls world.now) : Except Fault _)
  modify (·.afterCall finish)

/-- Sleeps for a duration. -/
def sleep (duration : Measure) : Run σ Unit := do
  let finish ← timeAfter duration
  record (.sleep duration)
  modify (·.afterSleep finish)

/-- Puts the tracker into a state. -/
def enter (state : TrackingState) : Run σ Unit :=
  modify (·.entering state)

/-- Lets the endpoint answer. -/
def answer {α : Type} (reply : σ → Except Fault α × σ) : Run σ α := do
  let (result, endpoint) := reply (← get).endpoint
  modify fun world => { world with endpoint }
  result

/-- Records an event once an operation is over, whatever its end. -/
def noting {α : Type} (note : Except Fault α → Event) (operation : Run σ α) : Run σ α :=
  ExceptT.mk do
    let result ← operation.run
    modify (·.record (note result))
    return result

/-- Records the end of a session once an operation is over. -/
def closing {α : Type} (operation : Run σ α) : Run σ α :=
  noting (fun _ => .close) operation

/-- Repeats a step, as often as given, until it ends with a value. A step that does not hands on what the next
one starts from. -/
def repeatUntil {α β : Type} (step : α → Run σ (α ⊕ β)) : (times : Nat) → α → Run σ β
  | 0, _ => throw .unfinished
  | times + 1, start => do
      match ← step start with
      | .inl next => repeatUntil step times next
      | .inr value => return value

end Run

end WasmDeploy
