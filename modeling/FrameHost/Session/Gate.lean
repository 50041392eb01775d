import FrameHost.Gate.Script
import FrameHost.Session.Report

/-!
A session with a gate and guards in numbered slots.
-/
namespace FrameHost

inductive GateRequest where
  | act (op : GateOp)
  | scope (body : GateScript)
  | catching (body : GateScript)
  | unknown

namespace GateSession

def answer (r : Reply) : GateState × Option Fault → Reply × GateState
  | (s, none) => (r, s)
  | (s, some fault) => (.fault fault, s)

def perform (r : GateRequest) (s : GateState) : Reply × GateState :=
  match r with
  | .act op =>
      let reply : Reply := match op with
        | .openSlot => .count s.slots.length
        | .closeSlot slot => .flag s.slots[slot]?.join.isSome
        | .check _ => .text "ok"
        | .read => .flag s.gate.allowed
        | .raise _ => .nothing
      answer reply (s.perform op)
  | .scope body => answer (.text "done") ((GateScript.scope body .done).run s)
  | .catching body => answer (.text "done") ((GateScript.catching body .done).run s)
  | .unknown => (.unknown, s)

def run (steps : List GateRequest) : List (Report Bool) × String :=
  let (reports, s) := runSteps perform (fun s => s.events.map fun e => .said e.text)
    (fun _ s => s.gate.allowed) .initial steps
  (reports, s.gate.outline.compact)

end GateSession

end FrameHost
