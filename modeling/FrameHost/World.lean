import FrameHost.Adapter
import FrameHost.Affinity
import FrameHost.CallQueue
import FrameHost.Channel
import FrameHost.Controls
import FrameHost.Gate.Basic
import FrameHost.Renderer

/-!
The world in which scripts run: the graphics context shared by host and handles, the channel to the main
thread, the standalone queue, the renderer, the desktop and the journal.
-/
namespace FrameHost

structure Graphics where
  affinity : Affinity
  gate : Gate
  queue : CallQueue
  deriving DecidableEq, Repr

namespace Graphics

def new : Graphics := ⟨.unbound, .closed, .empty⟩

def inContext (g : Graphics) (thread : Nat) : Bool := g.affinity.isCurrent thread

def allows (g : Graphics) (thread : Nat) : Bool := g.inContext thread && g.gate.allowed

end Graphics

structure Platform where
  window : Option Nat
  title : String
  deriving DecidableEq, Repr

structure Host where
  adapter : Adapter
  controls : Controls
  platform : Option Platform
  deriving DecidableEq, Repr

structure World where
  /-- Newest first. -/
  journal : List Event
  /-- The next ticket. -/
  tickets : Nat
  threads : Threads
  /-- Lives as long as the host or a handle. -/
  graphics : Option Graphics
  /-- The handle slots that are full. -/
  handles : List Bool
  channel : Channel
  standalone : Option CallQueue
  renderer : Renderer
  desktop : Desktop
  host : Option Host
  deriving DecidableEq, Repr

namespace World

def empty : World :=
  ⟨[], 0, .initial, none, [], .absent, none, .initial, .initial, none⟩

def record (w : World) (e : Event) : World := { w with journal := e :: w.journal }
def recordAll (w : World) (es : List Event) : World := es.foldl record w
def say (w : World) (text : String) : World := w.record (.said text)
def log (w : World) (r : LogRecord) : World := w.record (.log r)

def runnable (w : World) (label : Option String) (body : Script) : Runnable := ⟨w.tickets, label, body⟩

def ticketed (w : World) : World := { w with tickets := w.tickets + 1 }

def destroyAll (w : World) (rs : List Runnable) : World :=
  w.recordAll (rs.map fun r => .destroyed r.ticket r.label)

def handle? (w : World) (slot : Nat) : Option Graphics :=
  if w.handles[slot]?.getD false then w.graphics else none

def discardCalls (w : World) (q : CallQueue) : World :=
  (if q.isEmpty then w else w.log (.droppingCalls q.length)).destroyAll q.calls

/-- The graphics context is dropped when neither the host nor a handle is left. -/
def releaseGraphics (w : World) : World :=
  if w.host.isSome || w.handles.any id then w
  else match w.graphics with
    | none => w
    | some g => { w with graphics := none }.discardCalls g.queue

def dropHandle (w : World) (slot : Nat) : World :=
  { w with handles := w.handles.set slot false }.releaseGraphics

/-- A runnable is queued for the main thread, or destroyed with a warning if the receiver is gone. -/
def dispatch (w : World) (r : Runnable) : World :=
  let w := w.record (.submitted .mainThread r.ticket)
  if w.channel.receiver = .gone then (w.record (.destroyed r.ticket r.label)).log .mainThreadGone
  else { w with channel := { w.channel with waiting := w.channel.waiting ++ [r] } }

def dropReceiver (w : World) : World :=
  { w with channel := { w.channel with receiver := .gone, waiting := [] } }.destroyAll w.channel.waiting

def dropHost (w : World) : World :=
  match w.host with
  | none => w
  | some _ =>
      let w := { w with host := none }.releaseGraphics
      if w.channel.receiver = .platform then w.dropReceiver else w

end World

end FrameHost
