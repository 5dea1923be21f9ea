import Std.Data.TreeSet

/-!
# Planning reachable types

Generators discover the types they refer to while they run, so the types reachable from a root are found by
draining a queue.  A planner takes requests, each a name with the generator that is to produce it, and hands
every name to the generator of its first request, once, in the order of those requests.

A generator sees the planner only through a script: it may request a name, ask whether a name was handed
out, ask for the state, and in the end yields an output or fails.  The first failure ends the drain.
What a generator does may depend on a memory that all calls of a drain share.
Whether a drain ends at all is the subject of `CustomResource.Planner.Termination`.
-/

namespace CustomResource

/-! ## Planners -/

/-- The life of a planner, which serves one run. -/
inductive PlannerState where
  /-- Nothing was requested yet. -/
  | empty
  /-- Names are queued, and the drain has not begun. -/
  | pending
  /-- The queue is being drained. -/
  | draining
  /-- The queue was drained. -/
  | done
  deriving DecidableEq, Repr

/-- Names that wait with their generators, and names that were handed out. -/
structure Planner (G : Type) where
  queue : List (String × G) := []
  pending : Std.TreeSet String := ∅
  visited : Std.TreeSet String := ∅
  state : PlannerState := .empty

/-- An output, with the name it was requested under. -/
structure Planned (T : Type) where
  name : String
  output : T
  deriving DecidableEq, Repr

namespace Planner

variable {G : Type}

/-- Whether a name was handed to its generator. -/
def isVisited (planner : Planner G) (name : String) : Bool :=
  planner.visited.contains name

/-- Queue a name, unless it waits or was handed out.  The answer tells whether it was queued. -/
def request (planner : Planner G) (name : String) (generator : G) : Planner G × Bool :=
  if planner.visited.contains name || planner.pending.contains name then (planner, false)
  else
    ({ queue := planner.queue ++ [(name, generator)]
       pending := planner.pending.insert name
       visited := planner.visited
       state := if planner.state = .empty then .pending else planner.state }, true)

/-- The planner after the first name of the queue was taken off and `rest` is left. -/
def handOut (planner : Planner G) (name : String) (rest : List (String × G)) : Planner G where
  queue := rest
  pending := planner.pending.erase name
  visited := planner.visited.insert name
  state := planner.state

end Planner

/-! ## Scripts -/

/-- What a generator does with the planner, up to its output or failure. -/
inductive Script (G E T : Type) where
  | done (output : T)
  | fail (error : E)
  | request (name : String) (generator : G) (next : Bool → Script G E T)
  | visited (name : String) (next : Bool → Script G E T)
  | state (next : PlannerState → Script G E T)

namespace Script

variable {G E T : Type}

/-- Run a script on a planner. -/
def run : Script G E T → Planner G → Planner G × Except E T
  | .done output, planner => (planner, .ok output)
  | .fail error, planner => (planner, .error error)
  | .request name generator next, planner =>
      let (planner, queued) := planner.request name generator
      (next queued).run planner
  | .visited name next, planner => (next (planner.isVisited name)).run planner
  | .state next, planner => (next planner.state).run planner

/-- The same script with another output. -/
def map {U : Type} (f : T → U) : Script G E T → Script G E U
  | .done output => .done (f output)
  | .fail error => .fail error
  | .request name generator next => .request name generator fun answer => (next answer).map f
  | .visited name next => .visited name fun answer => (next answer).map f
  | .state next => .state fun answer => (next answer).map f

/-- Make requests in order, whatever the answers, and go on. -/
def requestAll (requests : List (String × G)) (next : Script G E T) : Script G E T :=
  requests.foldr (fun (name, generator) rest => .request name generator fun _ => rest) next

end Script

/-! ## Draining -/

/-- The generator calls of a drain in order, each with its outcome; a failure is the last.  A call finds the
memory that the calls before it left and leaves one for the next.  No answer if the queue is not empty after
`fuel` calls. -/
def Planner.callsFrom? {S G E T : Type} (generate : S → G → Script G E (S × T)) :
    Nat → S → Planner G → Option (List (Planned (Except E T)))
  | 0, _, planner => if planner.queue.isEmpty then some [] else none
  | fuel + 1, memory, planner =>
      match planner.queue with
      | [] => some []
      | (name, generator) :: rest =>
          match (generate memory generator).run (planner.handOut name rest) with
          | (_, .error error) => some [⟨name, .error error⟩]
          | (planner, .ok (memory, output)) =>
              (callsFrom? generate fuel memory planner).map (⟨name, .ok output⟩ :: ·)

/-- The generator calls of a drain whose generators keep no memory. -/
def Planner.calls? {G E T : Type} (generate : G → Script G E T) (fuel : Nat) (planner : Planner G) :
    Option (List (Planned (Except E T))) :=
  planner.callsFrom? (fun _ generator => (generate generator).map fun output => ((), output)) fuel ()

/-- The calls of a drain from the queue as it stands. -/
def Planner.drainFrom? {S G E T : Type} (generate : S → G → Script G E (S × T)) (fuel : Nat)
    (memory : S) (planner : Planner G) : Option (List (Planned (Except E T))) :=
  { planner with state := .draining }.callsFrom? generate fuel memory

/-- The calls of a drain from the queue as it stands, whose generators keep no memory. -/
def Planner.drain? {G E T : Type} (generate : G → Script G E T) (fuel : Nat)
    (planner : Planner G) : Option (List (Planned (Except E T))) :=
  { planner with state := .draining }.calls? generate fuel

/-- The outputs of calls, or the failure among them. -/
def Planned.outputs {E T : Type} : List (Planned (Except E T)) → Except (Planned E) (List (Planned T))
  | [] => .ok []
  | ⟨name, .error error⟩ :: _ => .error ⟨name, error⟩
  | ⟨name, .ok output⟩ :: rest => (outputs rest).map (⟨name, output⟩ :: ·)

end CustomResource
