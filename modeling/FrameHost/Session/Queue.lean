import FrameHost.Session.Work

/-!
A session with a standalone queue of calls, on the main thread.
-/
namespace FrameHost

inductive QueueRequest where
  | push (label : Option String) (body : Script)
  | drain
  | act (body : Script)
  | describe
  /-- Makes a runnable, and runs or destroys it. -/
  | single (label : Option String) (body : Script) (run : Bool)
  /-- Each of some threads pushes a number of runnables; then the queue is drained. -/
  | concurrent (threads count : Nat)
  | drop
  | unknown

def startedTickets (journal : List Event) : List Nat :=
  journal.reverse.filterMap fun | .started ticket _ => some ticket | _ => none

namespace QueueSession

def pushIdle (w : World) (q : CallQueue) : Nat → World × CallQueue
  | 0 => (w, q)
  | n + 1 => pushIdle w.ticketed (q.push (w.runnable none .done)) n

def drain (w : World) (q : CallQueue) : Machine :=
  let (calls, q) := q.take
  ({ w with standalone := some q }.drain Threads.main .standalone calls []).run

def drop (w : World) : World :=
  match w.standalone with
  | none => w
  | some q => { w with standalone := none }.discardCalls q

def perform (r : QueueRequest) (w : World) : Reply × World :=
  match w.standalone with
  | none => (.missing .queue, w)
  | some q => match r with
      | .push label body =>
          (.nothing, { w.ticketed with standalone := some (q.push (w.runnable label body)) })
      | .drain => let m := drain w q; (m.reply, m.world)
      | .act body => w.act body
      | .describe => (.text q.outline.compact, w)
      | .single label body true =>
          let m := (w.ticketed.start Threads.main (w.runnable label body) []).run
          (m.reply, m.world)
      | .single label body false => (.nothing, w.ticketed.destroyAll [w.runnable label body])
      | .concurrent threads count =>
          let first := w.tickets
          let (w, q) := pushIdle w q (threads * count)
          let last := w.tickets
          let m := drain w q
          let pushed := (startedTickets m.world.journal).filter fun t => first ≤ t && t < last
          (match m.reply with
            | .count ran => .tally q.length ran (pushed == List.range' first (last - first))
            | reply => reply, m.world)
      | .drop => (.nothing, drop w)
      | .unknown => (.unknown, w)

def run (steps : List QueueRequest) : List (Report (Option Nat)) × List String :=
  let (reports, w) := runSteps perform World.journal (fun _ w => w.standalone.map CallQueue.length)
    { World.empty with standalone := some .empty } steps
  (reports, traceOf (drop { w with journal := [] }).journal)

end QueueSession

end FrameHost
