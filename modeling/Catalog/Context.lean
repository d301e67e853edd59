/-!
The context of a call: a deadline, and a signal through which the caller may cancel. Work done
under a context is given up as soon as one of the two is due.

Time is a count of milliseconds that moves only as it is told to, or while work is waited for.
-/

namespace Catalog.Context

/-- Why work is given up. -/
inductive Interruption
  | cancelled
  | deadlineExceeded
  deriving DecidableEq, Repr

def Interruption.message : Interruption → String
  | cancelled => "Operation cancelled by caller"
  | deadlineExceeded => "Operation deadline exceeded"

/-- The caller's side of a signal. -/
inductive Signal
  /-- The caller may cancel. -/
  | held
  /-- A cancellation is on its way and comes at an instant. -/
  | scheduled (instant : Nat)
  /-- The caller gave the signal away unused. -/
  | dropped
  | fired
  deriving DecidableEq, Repr

/-- A context and its clock. -/
structure State where
  clock : Nat
  deadline : Option Nat
  /-- The signal that the context listens to. -/
  signal : Option Signal
  deriving DecidableEq, Repr

/-- Work that takes a while or never ends, and then succeeds or fails. -/
structure Work where
  duration : Option Nat
  failure : Option String
  deriving DecidableEq, Repr

inductive Outcome
  | finished
  | failed (message : String)
  | interrupted (i : Interruption)
  /-- Nothing happened for as long as was waited. -/
  | pending
  deriving DecidableEq, Repr

inductive Step
  /-- A new context whose deadline is so far ahead. -/
  | timeout (duration : Nat)
  /-- One more deadline; the tighter one holds. -/
  | deadline (instant : Nat)
  /-- A new signal in place of the one listened to so far. -/
  | withSignal
  | cancel
  | cancelAfter (duration : Nat)
  | drop
  | advance (duration : Nat)
  | run (work : Work)
  deriving DecidableEq, Repr

namespace State

def start : State := ⟨0, none, none⟩

def isCancelled (s : State) : Bool := s.signal = some .fired

def isExpired (s : State) : Bool := s.deadline.any (· ≤ s.clock)

/-- What keeps work from being started. -/
def interruption? (s : State) : Option Interruption :=
  if s.isCancelled then some .cancelled
  else if s.isExpired then some .deadlineExceeded
  else none

/-- The state at a later instant. A cancellation that was due by then has come. -/
def elapse (s : State) (instant : Nat) : State :=
  let signal := s.signal.map fun
    | .scheduled due => if due ≤ instant then .fired else .scheduled due
    | signal => signal
  { s with clock := instant, signal := signal }

/-- When work ends by itself, and how. -/
def completion? (s : State) (w : Work) : Option (Nat × Outcome) :=
  w.duration.map fun d => (s.clock + d, w.failure.elim .finished .failed)

/-- When a cancellation is due. -/
def cancellation? (s : State) : Option (Nat × Outcome) :=
  match s.signal with
  | some (.scheduled due) => some (due, .interrupted .cancelled)
  | _ => none

def expiry? (s : State) : Option (Nat × Outcome) :=
  s.deadline.map fun d => (d, .interrupted .deadlineExceeded)

/-- The earlier of two events, of two at one instant the first. -/
def earlier (e f : Nat × Outcome) : Nat × Outcome := if f.1 < e.1 then f else e

/-- What may end the wait for work. -/
def events (s : State) (w : Work) : List (Nat × Outcome) :=
  (s.completion? w).toList ++ s.cancellation?.toList ++ s.expiry?.toList

/-- What ends the wait for work, which is at most so long. -/
def firstEvent (s : State) (limit : Nat) (w : Work) : Nat × Outcome :=
  (s.events w).foldr earlier (s.clock + limit, .pending)

/-- Does work under the context, unless the context is over already. -/
def run (s : State) (limit : Nat) (w : Work) : State × Outcome :=
  match s.interruption? with
  | some i => (s, .interrupted i)
  | none =>
    let (instant, outcome) := s.firstEvent limit w
    (s.elapse instant, outcome)

/-- Changes the signal if the caller still holds it. -/
def signalHeld (s : State) (next : Signal) : State :=
  if s.signal = some .held then { s with signal := some next } else s

/-- One step, and the outcome if it is work, which is waited for at most so long. -/
def stepWithin (limit : Nat) (s : State) : Step → State × Option Outcome
  | .timeout d => ({ s with deadline := some (s.clock + d), signal := none }, none)
  | .deadline d => ({ s with deadline := some (s.deadline.elim d (min d)) }, none)
  | .withSignal => ({ s with signal := some .held }, none)
  | .cancel => (s.signalHeld .fired, none)
  | .cancelAfter d => (s.signalHeld (.scheduled (s.clock + d)), none)
  | .drop => (s.signalHeld .dropped, none)
  | .advance d => (s.elapse (s.clock + d), none)
  | .run w => ((s.run limit w).1, some (s.run limit w).2)

/-- How long work is waited for that neither ends nor is given up: an hour. -/
def patience : Nat := 3600000

def step (s : State) (a : Step) : State × Option Outcome := s.stepWithin patience a

end State

end Catalog.Context
