import FrameHost.Machine.Frame

/-!
The ways to run a runnable: at once, in a batch taken from a queue, or in a round of main-thread work.
-/
namespace FrameHost

namespace World

def start (w : World) (thread : Nat) (r : Runnable) (below : List Frame) : Machine :=
  .proceed (w.record (.started r.ticket thread)) (.script thread r.body :: .running r.ticket :: below)

/-- A runnable for the graphics thread runs at once where graphics calls are allowed, and is queued
elsewhere. -/
def post (w : World) (g : Graphics) (thread : Nat) (r : Runnable) (below : List Frame) : Machine :=
  let w := w.record (.submitted .graphics r.ticket)
  if g.allows thread then w.start thread r below
  else .proceed { w with graphics := some { g with queue := g.queue.push r } } below

def drain (w : World) (thread : Nat) (line : Line) (calls : List Runnable) (below : List Frame) : Machine :=
  let activation := w.tickets
  let w := w.ticketed.record (.began line activation (calls.map Runnable.ticket))
  .proceed (if calls.isEmpty then w else w.log (.runningCalls calls.length))
    (.batch thread activation calls calls.length :: below)

def round (w : World) (thread : Nat) (below : List Frame) : Machine :=
  .proceed (w.ticketed.record (.began .mainThread w.tickets (w.channel.waiting.map Runnable.ticket)))
    (.round thread w.tickets w.channel.waiting.length 0 :: below)

def nextCall (w : World) (thread activation count : Nat) : List Runnable → Machine
  | [] => .answering (w.record (.ended activation count)) (.count count)
  | r :: rest => (w.record (.took activation r.ticket)).start thread r [.batch thread activation rest count]

/-- The round ends when it has run as many runnables as were waiting at its start, or when none is left. -/
def nextMain (w : World) (thread activation queued ran : Nat) : Machine :=
  match decide (ran < queued), w.channel.waiting with
  | true, r :: waiting =>
      ({ w with channel := { w.channel with waiting } }.record (.took activation r.ticket)).start thread r
        [.round thread activation queued (ran + 1)]
  | _, _ =>
      .answering ((if ran = 0 then w else w.log (.ranMainThread ran)).record (.ended activation ran))
      (.count ran)

def showDrained (w : World) : Answer → Machine
  | .count n => .proceed (w.say s!"drained {n} left {(w.standalone.getD .empty).length}") []
  | _ => .proceed w []

def showRound (w : World) : Answer → Machine
  | .count n => .proceed (w.say s!"run_main {n} left {w.channel.waiting.length}") []
  | _ => .proceed w []

end World

end FrameHost
