import FrameHost.Machine.Pass

/-!
One step of the machine. A step depends on the top frame and the world, replaces the top frame, and leaves
the frames below as they are.
-/
namespace FrameHost

def Op.perform (op : Op) (w : World) (thread : Nat) (next : Script) : Machine :=
  let go (w : World) : Machine := .proceed w [.script thread next]
  match op with
  | note text => go (w.say text)
  | raise message => .failing w (.raised message) []
  | query handle => go <| match w.handle? handle with
      | none => w.say "no handle"
      | some g => w.say
          s!"query ctx={g.inContext thread} allowed={g.allows thread} pending={g.queue.length}"
  | dropHandle handle =>
      let full := w.handles[handle]?.getD false
      go ((w.dropHandle handle).say s!"drop_handle {full}")
  | chain count handle =>
      let w := w.say s!"chain {count}"
      match count, w.handle? handle with
      | count + 1, some g =>
          w.ticketed.post g thread (w.runnable none (.act (.chain count handle) .done)) [.script thread next]
      | _, _ => go w
  | runMain =>
      if w.channel.receiver = .free then
        w.round thread [.ranMain, .script thread next]
      else go (w.say "no receiver")
  | drainQueue => match w.standalone with
      | none => go (w.say "no queue")
      | some q =>
          let (calls, q) := q.take
          { w with standalone := some q }.drain thread .standalone calls [.drained, .script thread next]
  | queueLength => go <| match w.standalone with
      | none => w.say "no queue"
      | some q => w.say s!"len {q.length} empty {q.isEmpty}"
  | setTarget present => go { w with renderer := { w.renderer with hasTarget := present } }
  | setResolution resolution => go { w with renderer := { w.renderer with resolution } }
  | setSticky sticky => go { w with renderer := { w.renderer with sticky } }
  | failRender error => go { w with renderer := { w.renderer with failures := w.renderer.failures ++ [error] } }

def Nest.perform (kind : Nest) (w : World) (thread : Nat) (body next : Script) : Machine :=
  let go (w : World) : Machine := .proceed w [.script thread next]
  match kind with
  | times 0 => go w
  | times (count + 1) => .proceed w [.script thread body, .script thread (.nest (.times count) body next)]
  | spawn =>
      let (threads, child) := w.threads.fresh
      .proceed { w with threads } [.script child body, .joined, .script thread next]
  | catching => .proceed w [.script thread body, .catching, .script thread next]
  | push handle label => match w.handle? handle with
      | none => go (w.say "no handle")
      | some g => w.ticketed.post g thread (w.runnable label body) [.script thread next]
  | dispatch sender label =>
      go (if w.channel.hasSender sender then w.ticketed.dispatch (w.runnable label body)
        else w.say "no sender")
  | enqueue label => match w.standalone with
      | none => go (w.say "no queue")
      | some q =>
          let r := w.runnable label body
          go ({ w.ticketed with standalone := some (q.push r) }.record (.submitted .standalone r.ticket))
  | install hook => go { w with renderer := w.renderer.install hook body }

namespace Frame

def advance (f : Frame) (w : World) (answer : Answer) : Machine :=
  match f with
  | script _ .done => .proceed w []
  | script thread (.act op next) => op.perform w thread next
  | script thread (.nest kind body next) => kind.perform w thread body next
  | running ticket => .proceed (w.record (.finished ticket)) []
  | catching | joined => .proceed w []
  | batch thread activation rest count => w.nextCall thread activation count rest
  | drained => w.showDrained answer
  | round thread activation queued ran => w.nextMain thread activation queued ran
  | ranMain => w.showRound answer
  | enter thread => w.enterPass thread
  | pass thread saved .target => w.readTarget thread saved
  | pass thread saved (.loaded settings) => w.finishLoad thread saved settings
  | pass _ saved .presenting => w.present saved
  | frameEnd => w.endFrame answer

def unwind (f : Frame) (w : World) (fault : Fault) : Machine :=
  match f with
  | catching => .proceed (w.say ("caught: " ++ fault.message)) []
  | joined => .proceed (w.say ("spawn panicked: " ++ fault.message)) []
  | batch _ _ rest _ => .failing (w.destroyAll rest) fault []
  | pass _ saved _ => .failing ((w.leaveGate saved).record (.passEnded none)) fault []
  | _ => .failing w fault []

end Frame

namespace Machine

def step (m : Machine) : Machine :=
  match m.stack with
  | [] => m
  | f :: below =>
      let n := match m.fault with
        | none => f.advance m.world m.answer
        | some fault => f.unwind m.world fault
      { n with stack := n.stack ++ below }

end Machine

end FrameHost
