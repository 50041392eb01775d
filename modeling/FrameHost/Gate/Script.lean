import FrameHost.Gate.Basic

/-!
Programs over one gate: guards in scopes and in slots, checks, reads, and faults that may be caught.
-/
namespace FrameHost

inductive GateOp where
  /-- A guard in the next slot. -/
  | openSlot
  | closeSlot (slot : Nat)
  | check (operation : String)
  | read
  | raise (message : String)
  deriving DecidableEq, Repr

inductive GateScript where
  | done
  | act (op : GateOp) (next : GateScript)
  | scope (body next : GateScript)
  | catching (body next : GateScript)
  deriving DecidableEq, Inhabited, Repr

inductive GateEvent where
  | passed (operation : String)
  | saw (allowed : Bool)
  | caught (fault : Fault)
  deriving DecidableEq, Repr

def GateEvent.text : GateEvent → String
  | passed operation => "ok " ++ operation
  | saw allowed => s!"allowed {allowed}"
  | caught fault => "caught: " ++ fault.message

/-- A gate, what the guards in slots keep, and the events, newest first. -/
structure GateState where
  gate : Gate
  slots : List (Option Bool)
  events : List GateEvent
  deriving DecidableEq, Repr

namespace GateState

def initial : GateState := ⟨.closed, [], []⟩

def record (s : GateState) (e : GateEvent) : GateState := { s with events := e :: s.events }

def perform (s : GateState) : GateOp → GateState × Option Fault
  | .openSlot =>
      let (gate, saved) := s.gate.enter
      ({ s with gate, slots := s.slots ++ [some saved] }, none)
  | .closeSlot slot => match s.slots[slot]?.join with
      | none => (s, none)
      | some saved => ({ s with gate := s.gate.leave saved, slots := s.slots.set slot none }, none)
  | .check operation => match s.gate.check operation with
      | .ok () => (s.record (.passed operation), none)
      | .error fault => (s, some fault)
  | .read => (s.record (.saw s.gate.allowed), none)
  | .raise message => (s, some (.raised message))

end GateState

/-- The state after a program, and the fault that escaped it. -/
def GateScript.run : GateScript → GateState → GateState × Option Fault
  | done, s => (s, none)
  | act op next, s => match s.perform op with
      | (s, none) => next.run s
      | (s, some fault) => (s, some fault)
  | scope body next, s =>
      let (gate, saved) := s.gate.enter
      let (s, fault) := body.run { s with gate }
      let s := { s with gate := s.gate.leave saved }
      match fault with
      | none => next.run s
      | some fault => (s, some fault)
  | catching body next, s => match body.run s with
      | (s, none) => next.run s
      | (s, some fault) => next.run (s.record (.caught fault))

end FrameHost
