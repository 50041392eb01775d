import FrameHost.Machine.Work

/-!
The steps of a render pass: open the gate and run the queued calls, read the target, reload the renderer if
an update is due, draw. Every exit restores the gate.
-/
namespace FrameHost

namespace World

/-- A pass binds the graphics thread on the first attempt and raises on any other thread. -/
def enterPass (w : World) (thread : Nat) : Machine :=
  match w.graphics with
  | none => .proceed w []
  | some g =>
      let affinity := g.affinity.bind thread
      if affinity.isCurrent thread then
        let (gate, saved) := g.gate.enter
        let (calls, queue) := g.queue.take
        let w := { w with graphics := some ⟨affinity, gate, queue⟩ }.record (.passBegan thread)
        w.drain thread .graphics calls [.pass thread saved .target]
      else .failing w .offGraphicsThread []

def leaveGate (w : World) (saved : Bool) : World :=
  { w with graphics := w.graphics.map fun g => { g with gate := g.gate.leave saved } }

def endPass (w : World) (saved rendered : Bool) : Machine :=
  .answering ((w.leaveGate saved).record (.passEnded (some rendered))) (.flag rendered)

def checkGate (w : World) (operation : String) : Except Fault Unit :=
  (w.graphics.getD .new).gate.check operation

def setAdapter (w : World) (a : Adapter) : World :=
  { w with host := w.host.map fun h => { h with adapter := a } }

def draw (w : World) (thread : Nat) (saved : Bool) : Machine :=
  match w.checkGate "render" with
  | .error fault => .failing w fault [.pass thread saved .presenting]
  | .ok () =>
      .proceed (w.record .renderCalled)
        [.script thread w.renderer.onRender, .pass thread saved .presenting]

def load (w : World) (thread : Nat) (saved : Bool) (r : Reload) : Machine :=
  match w.checkGate "reload_renderer" with
  | .error fault => .failing w fault [.pass thread saved .presenting]
  | .ok () =>
      let w := (w.log (.reloading r.settings r.resolution)).record (.reloaded r.settings r.resolution)
      .proceed { w with renderer := w.renderer.reload r.resolution }
        [.script thread w.renderer.onReload, .pass thread saved (.loaded r.settings)]

def refresh (w : World) (thread : Nat) (saved : Bool) (a : Adapter) : Machine :=
  let (update, a) := a.update w.renderer.resolution
  let w := (w.setAdapter a).recordAll (update.records.map .log)
  match update.reload with
  | none => w.draw thread saved
  | some r => w.load thread saved r

def readTarget (w : World) (thread : Nat) (saved : Bool) : Machine :=
  let w := w.record (.targetRead w.renderer.hasTarget)
  match w.renderer.hasTarget, w.host with
  | true, some h => w.refresh thread saved h.adapter
  | _, _ => (w.log .noRenderTarget).endPass saved false

def finishLoad (w : World) (thread : Nat) (saved : Bool) (settings : Settings) : Machine :=
  match w.host with
  | some h => (w.setAdapter (h.adapter.loaded settings)).draw thread saved
  | none => w.draw thread saved

def present (w : World) (saved : Bool) : Machine :=
  match w.renderer.failures with
  | error :: failures =>
      ({ w with renderer := { w.renderer with failures } }.log (.frameFailed error)).endPass saved false
  | [] => (w.record .rendered).endPass saved true

def endFrame (w : World) (answer : Answer) : Machine :=
  let w := if answer = .flag false then w.log .frameSkipped else w
  match w.host.bind (·.platform) with
  | some ⟨some window, _⟩ => .proceed (w.record (.commanded window .redraw)) []
  | _ => .proceed w []

end World

end FrameHost
