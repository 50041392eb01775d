import FrameHost.Timer.Routine
import FrameHost.Session.Report

/-!
A session with timers in numbered slots over one registry.
-/
namespace FrameHost

inductive TimerRequest where
  | act (op : TimerOp)
  | create (length : Span) (repeats : Bool) (action : Routine)
  | scope (length : Span) (repeats : Bool) (action body : Routine)
  | catching (body : Routine)
  | unknown

structure TimerView where
  slots : List (Option TimerHandle)
  registered : List Nat

namespace TimerSession

def fuel : Nat := 100000

def routine : TimerRequest → Routine
  | .act op => .act op .done
  | .create length repeats action => .create length repeats action .done
  | .scope length repeats action body => .scope length repeats action body .done
  | .catching body => .catching body .done
  | .unknown => .done

def showTimer : Option TimerHandle → Reply
  | none => .missing .timer
  | some t => .timer t.id t.length t.repeats

def replyTo (r : TimerRequest) (before after : TimerState) : Reply :=
  match r with
  | .create .. => match after.slots.getLast?.join with
      | some t => .text t.id.name
      | none => .missing .timer
  | .act (.set slot _) => showTimer (after.slot? slot)
  | .act (.drop slot) => .flag (before.slot? slot).isSome
  | .act (.fire id) => .flag (before.takeAction id).isSome
  | .act (.setLocal _) => .missing .timer
  | .act (.note _) | .unknown => .unknown
  | .act _ => .nothing
  | .scope .. | .catching _ => .text "done"

def perform (r : TimerRequest) (s : TimerState) : Reply × TimerState :=
  match (routine r).exec fuel ⟨false, none⟩ s with
  | none => (.endless, s)
  | some (after, some fault) => (.fault fault, after)
  | some (after, none) => (replyTo r s after, after)

def view (s : TimerState) : TimerView := ⟨s.slots, s.table.entries.map (·.1)⟩

def teardown (s : TimerState) : TimerState :=
  let s := { s with table := { s.table with inLogic := true, failOn := none, journal := [] } }
  (List.range s.slots.length).foldl (fun s slot => (s.dropSlot slot).1) s

def run (inLogic : Bool) (nextId : Nat) (steps : List TimerRequest) : List (Report TimerView) × List String :=
  let (reports, s) := runSteps perform (·.table.journal) (fun _ s => view s) (.initial inLogic nextId) steps
  (reports, traceOf (teardown s).table.journal)

end TimerSession

end FrameHost
