import FrameHost.Proofs.RunnableMove

/-!
The requests of a platform to the window system, and the state they depend on. Only notices and the end of a
frame make requests; all other turns keep window, controls and receiver (`World.KeepsPlatform`).
-/
namespace FrameHost

inductive LoopRequest where
  | exit
  | window
  | redraw (window : Nat)
  deriving DecidableEq, Repr

def Event.loopRequest? : Event → Option LoopRequest
  | loopExitAsked => some .exit
  | windowAsked _ => some .window
  | commanded window .redraw => some (.redraw window)
  | _ => none

def Event.isTeardown : Event → Bool
  | log (.droppingCalls _) => true
  | _ => false

/-- Whether the event is neither a request to the window system nor a warning about the end of a queue. -/
def Event.isInward (e : Event) : Bool := e.loopRequest?.isNone && !e.isTeardown

structure PlatformState where
  window : Option Nat
  shown : Option Nat
  exit : Bool
  deriving DecidableEq, Repr

def Host.platformState? (h : Host) : Option PlatformState :=
  match h.platform, h.controls with
  | some p, .window c => some ⟨p.window, c.window, c.exitRequested⟩
  | _, _ => none

def World.platformState? (w : World) : Option (Option PlatformState) := w.host.map Host.platformState?

structure World.KeepsPlatform (w v : World) : Prop where
  platformState : v.platformState? = w.platformState?
  receiver : v.channel.receiver = w.channel.receiver
  handles : v.handles = w.handles
  graphics : v.graphics.isSome = w.graphics.isSome
  journal : w.Adds Event.isInward v

theorem Event.isInward_log {r : LogRecord} (h : r.tellsLoss = false) : (Event.log r).isInward = true := by
  cases r <;> first | rfl | cases h

namespace World.KeepsPlatform

variable {u v w : World}

theorem of_eq (platformState : v.platformState? = w.platformState?)
    (receiver : v.channel.receiver = w.channel.receiver)
    (handles : v.handles = w.handles) (graphics : v.graphics.isSome = w.graphics.isSome)
    (journal : v.journal = w.journal) : w.KeepsPlatform v :=
  ⟨platformState, receiver, handles, graphics, .of_eq journal⟩

theorem refl (w : World) : w.KeepsPlatform w := of_eq rfl rfl rfl rfl rfl

theorem trans (h : u.KeepsPlatform v) (k : v.KeepsPlatform w) : u.KeepsPlatform w :=
  ⟨k.platformState.trans h.platformState, k.receiver.trans h.receiver, k.handles.trans h.handles,
    k.graphics.trans h.graphics, h.journal.trans k.journal⟩

theorem hosted (h : w.KeepsPlatform v) : v.host.isSome = w.host.isSome := by
  simpa [World.platformState?] using congrArg Option.isSome h.platformState

theorem record (w : World) {e : Event} (h : e.isInward = true) : w.KeepsPlatform (w.record e) :=
  ⟨rfl, rfl, rfl, rfl, .record w h⟩

theorem log (w : World) {r : LogRecord} (h : r.tellsLoss = false) : w.KeepsPlatform (w.log r) :=
  record w (Event.isInward_log h)

theorem recordAll (w : World) {es : List Event} (h : ∀ e ∈ es, e.isInward = true) :
    w.KeepsPlatform (w.recordAll es) := by
  obtain ⟨j, eq⟩ := w.recordAll_eq es
  have added : w.Adds Event.isInward (w.recordAll es) := .recordAll w h
  rw [eq] at added ⊢
  exact ⟨rfl, rfl, rfl, rfl, added⟩

theorem logs (w : World) {rs : List LogRecord} (h : ∀ r ∈ rs, r.tellsLoss = false) :
    w.KeepsPlatform (w.recordAll (rs.map .log)) := by
  refine recordAll w fun e he => ?_
  obtain ⟨r, hr, rfl⟩ := List.mem_map.mp he
  exact Event.isInward_log (h r hr)

theorem destroyAll (w : World) (rs : List Runnable) : w.KeepsPlatform (w.destroyAll rs) := by
  refine recordAll w fun e he => ?_
  obtain ⟨r, _, rfl⟩ := List.mem_map.mp he
  rfl

theorem ticketed (w : World) : w.KeepsPlatform w.ticketed := of_eq rfl rfl rfl rfl rfl

theorem desktop (w : World) (d : Desktop) : w.KeepsPlatform { w with desktop := d } := of_eq rfl rfl rfl rfl rfl

theorem post {g : Graphics} (shared : w.graphics = some g) (thread : Nat) (r : Runnable) (below : List Frame) :
    w.KeepsPlatform (w.post g thread r below).world := by
  have submitted : w.KeepsPlatform (w.record (.submitted .graphics r.ticket)) := record w rfl
  unfold World.post
  dsimp only
  split
  · exact submitted.trans (record _ rfl)
  · have queued (q : CallQueue) : w.KeepsPlatform { w with graphics := some { g with queue := q } } :=
      of_eq rfl rfl rfl (by simp [shared]) rfl
    exact (queued _).trans (record _ rfl)

theorem push {g : Graphics} (shared : w.graphics = some g) (thread : Nat) (r : Runnable) (below : List Frame) :
    w.KeepsPlatform (w.ticketed.post g thread r below).world :=
  (ticketed w).trans (.post (w := w.ticketed) shared thread r below)

theorem dispatch (w : World) (r : Runnable) : w.KeepsPlatform (w.dispatch r) := by
  have submitted : w.KeepsPlatform (w.record (.submitted .mainThread r.ticket)) := record w rfl
  unfold World.dispatch
  dsimp only
  split
  · exact submitted.trans ((record _ rfl).trans (record _ rfl))
  · exact submitted.trans (of_eq rfl rfl rfl rfl rfl)

theorem drain (w : World) (thread : Nat) (line : Line) (calls : List Runnable) (below : List Frame) :
    w.KeepsPlatform (w.drain thread line calls below).world := by
  have began := (ticketed w).trans (record _ (e := .began line w.tickets (calls.map Runnable.ticket)) rfl)
  unfold World.drain
  dsimp only
  split
  · exact began
  · exact began.trans (record _ rfl)

theorem round (w : World) (thread : Nat) (below : List Frame) : w.KeepsPlatform (w.round thread below).world :=
  (ticketed w).trans (record _ rfl)

theorem nextCall (w : World) (thread activation count : Nat) (rest : List Runnable) :
    w.KeepsPlatform (w.nextCall thread activation count rest).world := by
  cases rest with
  | nil => exact record w rfl
  | cons r rest => exact (record w rfl).trans (record _ rfl)

theorem nextMain (w : World) (thread activation queued ran : Nat) :
    w.KeepsPlatform (w.nextMain thread activation queued ran).world := by
  unfold World.nextMain
  split
  · rename_i r waiting _ _
    have shorter : w.KeepsPlatform { w with channel := { w.channel with waiting } } := of_eq rfl rfl rfl rfl rfl
    exact shorter.trans ((record _ rfl).trans (record _ rfl))
  · split
    · exact record w rfl
    · exact (record w rfl).trans (record _ rfl)

theorem enterPass (w : World) (thread : Nat) : w.KeepsPlatform (w.enterPass thread).world := by
  unfold World.enterPass
  split
  · exact refl w
  · rename_i g shared
    dsimp only
    split
    · have begun : w.KeepsPlatform { w with
          graphics := some ⟨g.affinity.bind thread, g.gate.enter.1, g.queue.take.2⟩ } :=
        of_eq rfl rfl rfl (by simp [shared]) rfl
      exact (begun.trans (record _ rfl)).trans (drain _ thread .graphics _ _)
    · exact refl w

theorem leaveGate (w : World) (saved : Bool) : w.KeepsPlatform (w.leaveGate saved) :=
  of_eq rfl rfl rfl Option.isSome_map rfl

theorem endPass (w : World) (saved rendered : Bool) : w.KeepsPlatform (w.endPass saved rendered).world :=
  (leaveGate w saved).trans (record _ rfl)

theorem setAdapter (w : World) (a : Adapter) : w.KeepsPlatform (w.setAdapter a) := by
  have same : (w.setAdapter a).platformState? = w.platformState? := by
    rw [World.platformState?, World.setAdapter, Option.map_map]
    rfl
  exact of_eq same rfl rfl rfl rfl

theorem draw (w : World) (thread : Nat) (saved : Bool) : w.KeepsPlatform (w.draw thread saved).world := by
  unfold World.draw
  split
  · exact refl w
  · exact record w rfl

theorem load (w : World) (thread : Nat) (saved : Bool) (r : Reload) :
    w.KeepsPlatform (w.load thread saved r).world := by
  unfold World.load
  split
  · exact refl w
  · exact ((record w rfl).trans (record _ rfl)).trans (of_eq rfl rfl rfl rfl rfl)

theorem refresh (w : World) (thread : Nat) (saved : Bool) (a : Adapter) :
    w.KeepsPlatform (w.refresh thread saved a).world := by
  have told := (setAdapter w (a.update w.renderer.resolution).2).trans
    (logs _ (a.update_tells w.renderer.resolution))
  unfold World.refresh
  dsimp only
  split
  · exact told.trans (draw _ thread saved)
  · exact told.trans (load _ thread saved _)

theorem readTarget (w : World) (thread : Nat) (saved : Bool) :
    w.KeepsPlatform (w.readTarget thread saved).world := by
  have read : w.KeepsPlatform (w.record (.targetRead w.renderer.hasTarget)) := record w rfl
  unfold World.readTarget
  dsimp only
  split
  · exact read.trans (refresh _ thread saved _)
  · exact (read.trans (record _ rfl)).trans (endPass _ saved false)

theorem finishLoad (w : World) (thread : Nat) (saved : Bool) (settings : Settings) :
    w.KeepsPlatform (w.finishLoad thread saved settings).world := by
  unfold World.finishLoad
  split
  · exact (setAdapter w _).trans (draw _ thread saved)
  · exact draw w thread saved

theorem present (w : World) (saved : Bool) : w.KeepsPlatform (w.present saved).world := by
  unfold World.present
  split
  · rename_i error failures _
    have failed : w.KeepsPlatform { w with renderer := { w.renderer with failures } } :=
      of_eq rfl rfl rfl rfl rfl
    exact (failed.trans (record _ rfl)).trans (endPass _ saved false)
  · exact (record w rfl).trans (endPass _ saved true)

theorem ask (w : World) (h : Host) (r : AdapterRequest) : w.KeepsPlatform (w.ask h r).world := by
  have warned := (record w (e := .requested r) rfl).trans (logs _ r.warnings_tell)
  unfold World.ask
  dsimp only
  split
  · exact warned
  · exact (warned.trans (log _ r.notice_tells)).trans (setAdapter _ _)

theorem commands {h : Host} (hosted : w.host = some h) {c : Controls} {es : List Event}
    (same : { h with controls := c }.platformState? = h.platformState?) (inward : ∀ e ∈ es, e.isInward = true) :
    w.KeepsPlatform ((w.setControls c).recordAll es) := by
  have same : (w.setControls c).platformState? = w.platformState? := by
    rw [World.platformState?, World.setControls, World.platformState?, hosted]
    exact congrArg some same
  have set : w.KeepsPlatform (w.setControls c) := of_eq same rfl rfl rfl rfl
  exact set.trans (recordAll _ inward)

theorem setTitle {h : Host} {p : Platform} (hosted : w.host = some h) (platform : h.platform = some p)
    (title : String) : w.KeepsPlatform (w.setPlatform { p with title }) := by
  have same : { h with platform := some { p with title } }.platformState? = h.platformState? := by
    simp only [Host.platformState?, platform]
    cases h.controls <;> rfl
  have same : (w.setPlatform { p with title }).platformState? = w.platformState? := by
    rw [World.platformState?, World.setPlatform, World.platformState?, hosted]
    exact congrArg some same
  exact of_eq same rfl rfl rfl rfl

theorem setFullscreen {h : Host} (hosted : w.host = some h) (d : Desktop) (on : Bool) :
    w.KeepsPlatform (({ w with desktop := (h.controls.setFullscreen d on).2.1 }.setControls
      (h.controls.setFullscreen d on).1).recordAll (h.controls.setFullscreen d on).2.2) := by
  have same : { h with controls := (h.controls.setFullscreen d on).1 }.platformState? = h.platformState? := by
    obtain ⟨adapter, controls, platform⟩ := h
    cases controls <;> cases platform <;> rfl
  refine (desktop w (h.controls.setFullscreen d on).2.1).trans
    (commands (w := { w with desktop := (h.controls.setFullscreen d on).2.1 }) hosted same ?_)
  cases h.controls with
  | panel p => simp [Controls.setFullscreen, Event.isInward, Event.loopRequest?, Event.isTeardown]
  | window c =>
    unfold Controls.setFullscreen WindowLink.setFullscreen
    dsimp only
    split <;> simp [Event.isInward, Event.loopRequest?, Event.isTeardown]

theorem setCursor {h : Host} (hosted : w.host = some h) (visible : Bool) :
    w.KeepsPlatform ((w.setControls (h.controls.setCursor visible).1).recordAll
    (h.controls.setCursor visible).2) := by
  have same : { h with controls := (h.controls.setCursor visible).1 }.platformState? = h.platformState? := by
    obtain ⟨adapter, controls, platform⟩ := h
    cases controls <;> cases platform <;> rfl
  refine commands hosted same ?_
  cases h.controls with
  | panel p => simp [Controls.setCursor, Event.isInward, Event.loopRequest?, Event.isTeardown]
  | window c =>
    unfold Controls.setCursor WindowLink.setCursor
    dsimp only
    split <;> simp [Event.isInward, Event.loopRequest?, Event.isTeardown]

end World.KeepsPlatform

section
variable (w : World)

theorem Op.keepsPlatform {op : Op} (kept : ∀ slot, op ≠ .dropHandle slot) (thread : Nat) (next : Script) :
    w.KeepsPlatform (op.perform w thread next).world := by
  have told (text : String) : w.KeepsPlatform (w.say text) := .record w rfl
  cases op with
  | note text => exact told text
  | dropHandle slot => exact absurd rfl (kept slot)
  | query handle =>
    unfold perform
    dsimp only
    split <;> exact told _
  | chain count handle =>
    unfold perform
    dsimp only
    split
    · rename_i shared
      exact (told _).trans (.push (World.handle?_graphics _ shared) thread _ _)
    · exact told _
  | runMain =>
    unfold perform
    dsimp only
    split
    · exact .round w thread _
    · exact told _
  | drainQueue =>
    unfold perform
    dsimp only
    split
    · exact told _
    · rename_i q held
      have emptied : w.KeepsPlatform { w with standalone := some .empty } := .of_eq rfl rfl rfl rfl rfl
      exact emptied.trans (.drain _ thread .standalone _ _)
  | queueLength =>
    unfold perform
    dsimp only
    split <;> exact told _
  | _ => exact .of_eq rfl rfl rfl rfl rfl

theorem Nest.keepsPlatform (kind : Nest) (thread : Nat) (body next : Script) :
    w.KeepsPlatform (kind.perform w thread body next).world := by
  cases kind with
  | times count => cases count <;> exact .refl w
  | spawn => exact .of_eq rfl rfl rfl rfl rfl
  | catching => exact .refl w
  | push handle label =>
    unfold perform
    dsimp only
    split
    · exact .record w rfl
    · rename_i shared
      exact .push (w.handle?_graphics shared) thread _ _
  | dispatch sender label =>
    unfold perform
    dsimp only [Machine.proceed]
    split
    · exact (World.KeepsPlatform.ticketed w).trans (.dispatch _ _)
    · exact .record w rfl
  | enqueue label =>
    unfold perform
    dsimp only
    split
    · exact .record w rfl
    · rename_i q held
      have queued : w.KeepsPlatform { w.ticketed with standalone := some (q.push (w.runnable label body)) } :=
        .of_eq rfl rfl rfl rfl rfl
      exact queued.trans (.record _ rfl)
  | install hook => cases hook <;> exact .of_eq rfl rfl rfl rfl rfl

def Frame.drops : Frame → Bool
  | script _ (.act (.dropHandle _) _) => true
  | _ => false

theorem Frame.of_drops {f : Frame} (h : f.drops = true) :
    ∃ thread slot next, f = .script thread (.act (.dropHandle slot) next) := by
  unfold drops at h
  split at h
  · exact ⟨_, _, _, rfl⟩
  · cases h

theorem Frame.keepsPlatform {f : Frame} (kept : f.drops = false) (ends : f ≠ .frameEnd) (answer : Answer) :
    w.KeepsPlatform (f.advance w answer).world := by
  cases f with
  | script thread rest =>
    cases rest with
    | done => exact .refl w
    | act op next =>
      refine op.keepsPlatform w (fun slot => ?_) thread next
      rintro rfl
      cases kept
    | nest kind body next => exact kind.keepsPlatform w thread body next
  | running ticket => exact .record w rfl
  | catching => exact .refl w
  | joined => exact .refl w
  | batch thread activation rest count => exact .nextCall w thread activation count rest
  | drained => cases answer <;> first | exact .record w rfl | exact .refl w
  | round thread activation queued ran => exact .nextMain w thread activation queued ran
  | ranMain => cases answer <;> first | exact .record w rfl | exact .refl w
  | enter thread => exact .enterPass w thread
  | pass thread saved phase =>
    cases phase with
    | target => exact .readTarget w thread saved
    | loaded settings => exact .finishLoad w thread saved settings
    | presenting => exact .present w saved
  | frameEnd => exact absurd rfl ends

theorem Frame.unwind_keepsPlatform (f : Frame) (fault : Fault) : w.KeepsPlatform (f.unwind w fault).world := by
  cases f with
  | batch thread activation rest count => exact .destroyAll w rest
  | pass thread saved phase => exact (World.KeepsPlatform.leaveGate w saved).trans (.record _ rfl)
  | catching => exact .record w rfl
  | joined => exact .record w rfl
  | _ => exact .refl w

/-- Whether the request carries a notice or changes the owners of host, context or receiver. -/
def Request.affectsPlatform : Request → Bool
  | terminate | attach | event _ | newHandle | dropHandle _ | dropReceiver | dropHost => true
  | _ => false

theorem Request.keepsPlatform {r : Request} (unfelt : r.affectsPlatform = false) (thread : Nat) :
    w.KeepsPlatform (r.begin w thread).world := by
  have toHost {f : Host → Machine} (served : ∀ h, w.host = some h → w.KeepsPlatform (f h).world) :
      w.KeepsPlatform (ofHost w f).world := by
    unfold ofHost
    split
    · exact .refl w
    · exact served _ ‹_›
  cases r with
  | act body => exact .refl w
  | render => exact toHost fun h _ => .refl w
  | push label body =>
    refine toHost fun h _ => ?_
    split
    · exact .refl w
    · exact .push ‹_› thread _ _
  | dispatch label body => exact toHost fun h _ => (World.KeepsPlatform.ticketed w).trans (.dispatch _ _)
  | adapter r => exact toHost fun h _ => .ask w h r
  | fullscreen on => exact toHost fun h hosted => .setFullscreen hosted w.desktop on
  | cursor visible => exact toHost fun h hosted => .setCursor hosted visible
  | runMain =>
    unfold begin
    dsimp only
    split
    · exact .round w thread _
    · exact .refl w
  | title text =>
    refine toHost fun h hosted => ?_
    split
    · exact .refl w
    · rename_i p platform
      exact .setTitle hosted platform text
  | userFullscreen | scale | failNextWindow => exact .desktop w _
  | terminate | attach | event | newHandle | dropHandle | dropReceiver | dropHost => cases unfelt

end

end FrameHost
