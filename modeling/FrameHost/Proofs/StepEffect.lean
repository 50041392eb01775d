import FrameHost.Machine.Rest
import FrameHost.Proofs.System

/-!
The effects of one turn of a strand. Every step of a script, of a frame or of an unwinding, and every
request, has one of the effects listed in `StepEffect`; the invariants of a system are proved by cases on
it.
-/
namespace FrameHost

def Event.isNote : Event → Bool
  | log _ | said _ | windowAsked _ | commanded .. | loopExitAsked => true
  | _ => false

def LogRecord.tellsLoss : LogRecord → Bool
  | droppingCalls _ | mainThreadGone => true
  | _ => false

/-- Whether the event is a note that reports no lost runnable. -/
def Event.isRemark : Event → Bool
  | log r => !r.tellsLoss
  | said _ | windowAsked _ | commanded .. | loopExitAsked => true
  | _ => false

theorem Event.isNote_of_isRemark {e : Event} (h : e.isRemark = true) : e.isNote = true := by
  cases e <;> first | rfl | cases h

def Frame.isPlain : Frame → Bool
  | running _ | batch .. | round .. | enter _ | pass .. | frameEnd => false
  | _ => true

/-- Whether an unwinding pops the frame without changing the world. -/
def Frame.isLight : Frame → Bool
  | running _ | batch .. | pass .. => false
  | _ => true

def Light (fs : List Frame) : Prop := ∀ f ∈ fs, f.isLight = true
def Plain (fs : List Frame) : Prop := ∀ f ∈ fs, f.isPlain = true

def World.Adds (p : Event → Bool) (w v : World) : Prop :=
  ∃ es, v.journal = es ++ w.journal ∧ ∀ e ∈ es, p e = true

/-- `v` differs from `w` at most in remarks, threads, handles, renderer, desktop, and in controls and platform
of the host. -/
structure World.Quiet (w v : World) : Prop where
  journal : w.Adds Event.isRemark v
  tickets : v.tickets = w.tickets
  graphics : v.graphics = w.graphics
  channel : v.channel = w.channel
  standalone : v.standalone = w.standalone
  adapter : v.host.map Host.adapter = w.host.map Host.adapter

inductive HostEffect (w : World) (others : List Frame) (fault : Option Fault) :
    List Frame → Machine → Prop where
  | dropHost (free : ∀ f ∈ others, f.holdsHost = false) :
      HostEffect w others fault [] (.proceed w.dropHost [])
  | ask {v : World} {h : Host} (still : w.Quiet v) (hosted : v.host = some h) (r : AdapterRequest)
      (free : ∀ f ∈ others, f.holdsHost = false) : HostEffect w others fault [] (v.ask h r)
  | enter {g : Graphics} (thread : Nat) (shared : w.graphics = some g)
      (owned : (g.affinity.bind thread).isCurrent thread = true) :
      HostEffect w others fault [.enter thread] (w.enterPass thread)
  | target (thread : Nat) (saved : Bool) (calm : fault = none) :
      HostEffect w others fault [.pass thread saved .target] (w.readTarget thread saved)
  | loaded (thread : Nat) (saved : Bool) (settings : Settings) (calm : fault = none) :
      HostEffect w others fault [.pass thread saved (.loaded settings)]
        (w.finishLoad thread saved settings)
  | present (thread : Nat) (saved : Bool) (calm : fault = none) :
      HostEffect w others fault [.pass thread saved .presenting] (w.present saved)
  | abort (thread : Nat) (saved : Bool) (phase : Phase) {raised : Fault}
      (unwinding : fault = some raised) :
      HostEffect w others fault [.pass thread saved phase]
        (.failing ((w.leaveGate saved).record (.passEnded none)) raised [])

/-- The effects of one turn on the world and on the top of a stack, while the other frames are `others`. -/
inductive StepEffect (w : World) (others : List Frame) (fault : Option Fault) :
    List Frame → Machine → Prop where
  | quiet {popped laid : List Frame} {v : World} {raised : Option Fault} {answer : Answer}
      (still : w.Quiet v)
      (light : Light popped) (plain : Plain laid) : StepEffect w others fault popped ⟨v, raised, answer, laid⟩
  | finish (ticket : Nat) :
      StepEffect w others fault [.running ticket] (.proceed (w.record (.finished ticket)) [])
  | abandon (ticket : Nat) {raised : Fault} :
      StepEffect w others fault [.running ticket] (.failing w raised [])
  | post {popped below : List Frame} {v : World} {g : Graphics} (thread : Nat) (label : Option String)
      (body : Script)
      (still : w.Quiet v) (light : Light popped) (plain : Plain below) (shared : v.graphics = some g) :
      StepEffect w others fault popped (v.ticketed.post g thread (v.runnable label body) below)
  | dispatch {popped below : List Frame} (label : Option String) (body : Script) (light : Light popped)
      (plain : Plain below) :
      StepEffect w others fault popped (.proceed (w.ticketed.dispatch (w.runnable label body)) below)
  | enqueue {popped below : List Frame} {q : CallQueue} (label : Option String) (body : Script)
      (light : Light popped) (plain : Plain below) (held : w.standalone = some q) :
      StepEffect w others fault popped
        (.proceed ({ w.ticketed with standalone := some (q.push (w.runnable label body)) }.record
        (.submitted .standalone w.tickets)) below)
  | drain {popped below : List Frame} {q : CallQueue} (thread : Nat) (light : Light popped)
      (plain : Plain below)
      (held : w.standalone = some q) : StepEffect w others fault popped
        ({ w with standalone := some .empty }.drain thread .standalone q.calls (.drained :: below))
  | round {popped below : List Frame} (thread : Nat) (light : Light popped) (plain : Plain below) :
      StepEffect w others fault popped (w.round thread below)
  | nextCall (thread activation : Nat) (rest : List Runnable) (count : Nat) (calm : fault = none) :
      StepEffect w others fault [.batch thread activation rest count]
        (w.nextCall thread activation count rest)
  | nextMain (thread activation queued ran : Nat) (calm : fault = none) :
      StepEffect w others fault [.round thread activation queued ran]
        (w.nextMain thread activation queued ran)
  | spill (thread activation : Nat) (rest : List Runnable) (count : Nat) {raised : Fault}
      (unwinding : fault = some raised) :
      StepEffect w others fault [.batch thread activation rest count] (.failing (w.destroyAll rest) raised [])
  | dropHandle {popped below : List Frame} {v : World} (slot : Nat)
      (still : (w.dropHandle slot).Quiet v)
      (handles : v.handles = (w.dropHandle slot).handles) (light : Light popped) (plain : Plain below) :
      StepEffect w others fault popped (.proceed v below)
  | dropReceiver : StepEffect w others fault [] (.proceed w.dropReceiver [])
  | render (thread : Nat) (hosted : w.host.isSome = true) (free : ∀ f ∈ others, f.holdsHost = false) :
      StepEffect w others fault [] (.proceed w [.enter thread])
  | redraw (thread : Nat) (hosted : w.host.isSome = true) (free : ∀ f ∈ others, f.holdsHost = false) :
      StepEffect w others fault [] (w.round thread [.enter thread, .frameEnd])
  | host {popped : List Frame} {n : Machine} (d : HostEffect w others fault popped n) :
      StepEffect w others fault popped n

theorem light_nil : Light [] := by simp [Light]
theorem light_one {f : Frame} (h : f.isLight = true) : Light [f] := by simpa [Light] using h

theorem plain_nil : Plain [] := by simp [Plain]

theorem plain_cons {f : Frame} {fs : List Frame} (h : f.isPlain = true) (k : Plain fs) :
    Plain (f :: fs) := by
  intro x hx
  rcases List.mem_cons.mp hx with eq | mem
  · exact eq ▸ h
  · exact k x mem

theorem plain_one {f : Frame} (h : f.isPlain = true) : Plain [f] := plain_cons h plain_nil

namespace World.Adds

variable {p q : Event → Bool}

theorem of_eq {w v : World} (h : v.journal = w.journal) : w.Adds p v := ⟨[], h, by simp⟩

theorem record (w : World) {e : Event} (h : p e = true) : w.Adds p (w.record e) :=
  ⟨[e], rfl, by simpa using h⟩

theorem trans {u v w : World} (h : u.Adds p v) (k : v.Adds p w) : u.Adds p w := by
  obtain ⟨es, he, new⟩ := h
  obtain ⟨ds, hd, newer⟩ := k
  refine ⟨ds ++ es, by rw [hd, he, List.append_assoc], ?_⟩
  intro e mem
  rcases List.mem_append.mp mem with hm | hm
  · exact newer e hm
  · exact new e hm

theorem mono {w v : World} (h : w.Adds p v) (le : ∀ e, p e = true → q e = true) : w.Adds q v := by
  obtain ⟨es, journal, new⟩ := h
  exact ⟨es, journal, fun e he => le e (new e he)⟩

end World.Adds

theorem World.Quiet.refl (w : World) : w.Quiet w := ⟨.of_eq rfl, rfl, rfl, rfl, rfl, rfl⟩

theorem World.Quiet.trans {u v w : World} (h : u.Quiet v) (k : v.Quiet w) : u.Quiet w :=
  ⟨h.journal.trans k.journal, k.tickets.trans h.tickets, k.graphics.trans h.graphics,
    k.channel.trans h.channel,
    k.standalone.trans h.standalone, k.adapter.trans h.adapter⟩

theorem World.quiet_record (w : World) {e : Event} (h : e.isRemark = true) : w.Quiet (w.record e) :=
  ⟨.record w h, rfl, rfl, rfl, rfl, rfl⟩

theorem World.quiet_say (w : World) (text : String) : w.Quiet (w.say text) := w.quiet_record rfl

theorem World.quiet_log (w : World) {r : LogRecord} (h : r.tellsLoss = false) : w.Quiet (w.log r) :=
  w.quiet_record (by simp [Event.isRemark, h])

theorem World.journal_recordAll (w : World) (es : List Event) :
    (w.recordAll es).journal = es.reverse ++ w.journal := by
  induction es generalizing w with
  | nil => rfl
  | cons e es ih =>
    change ((w.record e).recordAll es).journal = _
    rw [ih]
    simp [record]

theorem World.Adds.recordAll {p : Event → Bool} (w : World) {es : List Event}
    (h : ∀ e ∈ es, p e = true) :
    w.Adds p (w.recordAll es) :=
      ⟨es.reverse, w.journal_recordAll es, fun e he => h e (List.mem_reverse.mp he)⟩

theorem World.quiet_recordAll (w : World) {es : List Event} (h : ∀ e ∈ es, e.isRemark = true) :
    w.Quiet (w.recordAll es) := by
  have added := World.Adds.recordAll w h
  obtain ⟨j, eq⟩ := w.recordAll_eq es
  rw [eq] at added ⊢
  exact ⟨added, rfl, rfl, rfl, rfl, rfl⟩

theorem World.quiet_of_eq {w v : World} (journal : v.journal = w.journal)
    (tickets : v.tickets = w.tickets)
    (graphics : v.graphics = w.graphics) (channel : v.channel = w.channel)
    (standalone : v.standalone = w.standalone)
    (host : v.host.map Host.adapter = w.host.map Host.adapter) : w.Quiet v :=
  ⟨.of_eq journal, tickets, graphics, channel, standalone, host⟩

variable {w : World} {others : List Frame} {fault : Option Fault}

theorem Op.effect (op : Op) (thread : Nat) (next : Script) :
    StepEffect w others fault [.script thread (.act op next)] (op.perform w thread next) := by
  have top : Light [.script thread (.act op next)] := light_one rfl
  have rest : Plain [.script thread next] := plain_one rfl
  have go {v : World} (still : w.Quiet v) :
      StepEffect w others fault [.script thread (.act op next)] (.proceed v [.script thread next]) :=
        .quiet still top rest
  cases op with
  | note text => exact go (w.quiet_say text)
  | raise message => exact .quiet (.refl w) top plain_nil
  | query handle =>
    unfold perform
    dsimp only
    split <;> exact go (w.quiet_say _)
  | dropHandle handle => exact .dropHandle handle (World.quiet_say _ _) rfl top rest
  | chain count handle =>
    unfold perform
    dsimp only
    split
    · rename_i count g shared
      exact .post thread none _ (w.quiet_say _) top rest (World.handle?_graphics _ shared)
    · exact go (w.quiet_say _)
  | runMain =>
    unfold perform
    dsimp only
    split
    · exact .round thread top (plain_cons rfl rest)
    · exact go (w.quiet_say _)
  | drainQueue =>
    unfold perform
    dsimp only
    split
    · exact go (w.quiet_say _)
    · rename_i q held
      exact .drain thread top rest held
  | queueLength =>
    unfold perform
    dsimp only
    split <;> exact go (w.quiet_say _)
  | setTarget present => exact go (World.quiet_of_eq rfl rfl rfl rfl rfl rfl)
  | setResolution resolution => exact go (World.quiet_of_eq rfl rfl rfl rfl rfl rfl)
  | setSticky sticky => exact go (World.quiet_of_eq rfl rfl rfl rfl rfl rfl)
  | failRender error => exact go (World.quiet_of_eq rfl rfl rfl rfl rfl rfl)

theorem Nest.effect (kind : Nest) (thread : Nat) (body next : Script) :
    StepEffect w others fault [.script thread (.nest kind body next)] (kind.perform w thread body next) := by
  have top : Light [.script thread (.nest kind body next)] := light_one rfl
  have rest : Plain [.script thread next] := plain_one rfl
  have go {v : World} (still : w.Quiet v) :
      StepEffect w others fault [.script thread (.nest kind body next)] (.proceed v [.script thread next]) :=
        .quiet still top rest
  cases kind with
  | times count =>
    cases count with
    | zero => exact go (.refl w)
    | succ count => exact .quiet (.refl w) top (plain_cons rfl (plain_one rfl))
  | spawn =>
    exact .quiet (World.quiet_of_eq rfl rfl rfl rfl rfl rfl) top (plain_cons rfl (plain_cons rfl rest))
  | catching => exact .quiet (.refl w) top (plain_cons rfl (plain_cons rfl rest))
  | push handle label =>
    unfold perform
    dsimp only
    split
    · exact go (w.quiet_say _)
    · rename_i g shared
      exact .post thread label body (.refl w) top rest (World.handle?_graphics _ shared)
  | dispatch sender label =>
    unfold perform
    dsimp only
    split
    · exact .dispatch label body top rest
    · exact go (w.quiet_say _)
  | enqueue label =>
    unfold perform
    dsimp only
    split
    · exact go (w.quiet_say _)
    · rename_i q held
      exact .enqueue label body top rest held
  | install hook => exact go (World.quiet_of_eq rfl rfl rfl rfl rfl rfl)

theorem Frame.effect_advance (f : Frame) (answer : Answer) :
    StepEffect w others none [f] (f.advance w answer) := by
  have pop {v : World} (light : f.isLight = true) (still : w.Quiet v) :
      StepEffect w others none [f] (.proceed v []) :=
    .quiet still (light_one light) plain_nil
  cases f with
  | script thread rest =>
    cases rest with
    | done => exact pop rfl (.refl w)
    | act op next => exact op.effect thread next
    | nest kind body next => exact kind.effect thread body next
  | running ticket => exact .finish ticket
  | catching => exact pop rfl (.refl w)
  | joined => exact pop rfl (.refl w)
  | batch thread activation rest count => exact .nextCall thread activation rest count rfl
  | drained =>
    cases answer with
    | count n => exact pop rfl (w.quiet_say _)
    | _ => exact pop rfl (.refl w)
  | round thread activation queued ran => exact .nextMain thread activation queued ran rfl
  | ranMain =>
    cases answer with
    | count n => exact pop rfl (w.quiet_say _)
    | _ => exact pop rfl (.refl w)
  | enter thread =>
    cases shared : w.graphics with
    | none =>
      simp only [advance, World.enterPass, shared]
      exact pop rfl (.refl w)
    | some g =>
      by_cases owned : (g.affinity.bind thread).isCurrent thread = true
      · exact .host (.enter thread shared owned)
      · simp only [advance, World.enterPass, shared, owned, Bool.false_eq_true, if_false]
        exact .quiet (.refl w) (light_one rfl) plain_nil
  | pass thread saved phase =>
    cases phase with
    | target => exact .host (.target thread saved rfl)
    | loaded settings => exact .host (.loaded thread saved settings rfl)
    | presenting => exact .host (.present thread saved rfl)
  | frameEnd =>
    have still : w.Quiet (if answer = .flag false then w.log .frameSkipped else w) := by
      split
      · exact w.quiet_log rfl
      · exact .refl w
    simp only [advance, World.endFrame]
    split
    · exact pop rfl (still.trans (World.quiet_record _ rfl))
    · exact pop rfl still

theorem Frame.effect_unwind (f : Frame) (raised : Fault) :
    StepEffect w others (some raised) [f] (f.unwind w raised) := by
  have pop {v : World} {after : Option Fault} (light : f.isLight = true) (still : w.Quiet v) :
      StepEffect w others (some raised) [f] ⟨v, after, .nothing, []⟩ :=
        .quiet still (light_one light) plain_nil
  cases f with
  | running ticket => exact .abandon ticket
  | batch thread activation rest count => exact .spill thread activation rest count rfl
  | pass thread saved phase => exact .host (.abort thread saved phase rfl)
  | catching => exact pop rfl (w.quiet_say _)
  | joined => exact pop rfl (w.quiet_say _)
  | _ => exact pop rfl (.refl w)

theorem World.quiet_setControls (w : World) (c : Controls) : w.Quiet (w.setControls c) :=
  World.quiet_of_eq rfl rfl rfl rfl rfl (by simp only [setControls]; cases w.host <;> rfl)

theorem World.quiet_setPlatform (w : World) (p : Platform) : w.Quiet (w.setPlatform p) :=
  World.quiet_of_eq rfl rfl rfl rfl rfl (by simp only [setPlatform]; cases w.host <;> rfl)

theorem World.quiet_desktop (w : World) (d : Desktop) : w.Quiet { w with desktop := d } :=
  World.quiet_of_eq rfl rfl rfl rfl rfl rfl

theorem Controls.setFullscreen_remarks (c : Controls) (d : Desktop) (on : Bool) :
    ∀ e ∈ (c.setFullscreen d on).2.2, e.isRemark = true := by
  cases c with
  | panel p => simp [setFullscreen, Event.isRemark]
  | window l =>
    simp only [setFullscreen, WindowLink.setFullscreen]
    split <;> simp [Event.isRemark, LogRecord.tellsLoss]

theorem Controls.setCursor_remarks (c : Controls) (visible : Bool) :
    ∀ e ∈ (c.setCursor visible).2, e.isRemark = true := by
  cases c with
  | panel p => simp [setCursor, Event.isRemark]
  | window l =>
    simp only [setCursor, WindowLink.setCursor]
    split <;> simp [Event.isRemark, LogRecord.tellsLoss]

theorem Controls.terminate_remarks (c : Controls) : ∀ e ∈ c.terminate.2, e.isRemark = true := by
  cases c <;> simp [terminate, WindowLink.terminate, Event.isRemark, LogRecord.tellsLoss]

theorem World.quiet_attachWindow (w : World) (h : Host) (window : Nat) :
    w.Quiet (w.attachWindow h window) := by
  unfold attachWindow
  split
  · exact .refl w
  · exact (w.quiet_setControls _).trans (World.quiet_recordAll _ (by simp [Event.isRemark]))

theorem World.resume_effect (w : World) (h : Host) (p : Platform) :
    StepEffect w others fault [] (w.resume h p) := by
  have here {v : World} {raised : Option Fault} (still : w.Quiet v) :
      StepEffect w others fault [] ⟨v, raised, .nothing, []⟩ :=
    .quiet still light_nil plain_nil
  have asked : w.Quiet (w.record (.windowAsked p.title)) := w.quiet_record rfl
  unfold resume
  split
  · exact here (w.quiet_log rfl)
  · dsimp only
    split
    · rename_i reason _
      exact here ((asked.trans (World.quiet_desktop _ _)).trans
        ((World.quiet_log _ rfl).trans (World.quiet_record _ rfl)))
    · split
      · exact here ((asked.trans (World.quiet_desktop _ _)).trans ((World.quiet_log _ rfl).trans
          ((World.quiet_attachWindow _ h _).trans
            ((World.quiet_record _ rfl).trans (World.quiet_setPlatform _ _)))))
      · exact here asked

theorem World.handle_effect (w : World) (h : Host) (p : Platform) (hosted : w.host = some h)
    (thread : Nat)
    (e : WindowEvent) (free : ∀ f ∈ others, f.holdsHost = false) :
    StepEffect w others fault [] (w.handle h p thread e) := by
  have here {v : World} (still : w.Quiet v) : StepEffect w others fault [] (.proceed v []) :=
    .quiet still light_nil plain_nil
  cases e with
  | resumed => exact w.resume_effect h p
  | aboutToWait =>
    unfold handle
    dsimp only
    split
    · exact here ((w.quiet_log rfl).trans (World.quiet_record _ rfl))
    · exact here (.refl w)
  | closeRequested => exact here ((w.quiet_log rfl).trans (World.quiet_record _ rfl))
  | resized width height =>
    exact .host (.ask (w.quiet_log rfl) hosted (.resize width height) free)
  | redraw => exact .redraw thread (by simp [hosted]) free
  | other => exact here (.refl w)

theorem Request.effect (r : Request) (w : World) (thread : Nat)
    (free : r.needsHost = true → ∀ f ∈ others, f.holdsHost = false) :
    StepEffect w others fault [] (r.begin w thread) := by
  have here {v : World} (still : w.Quiet v) : StepEffect w others fault [] (.proceed v []) :=
    .quiet still light_nil plain_nil
  have toHost {f : Host → Machine} (served : ∀ h, w.host = some h → StepEffect w others fault [] (f h)) :
      StepEffect w others fault [] (ofHost w f) := by
    unfold ofHost
    split
    · exact here (.refl w)
    · exact served _ ‹_›
  cases r with
  | act body => exact .quiet (.refl w) light_nil (plain_one rfl)
  | render => exact toHost fun h hosted => .render thread (by simp [hosted]) (free rfl)
  | push label body =>
    apply toHost
    intro h _
    split
    · exact here (.refl w)
    · exact .post thread label body (.refl w) light_nil plain_nil ‹_›
  | dispatch label body => exact toHost fun h _ => .dispatch label body light_nil plain_nil
  | adapter r => exact toHost fun h hosted => .host (.ask (.refl w) hosted r (free rfl))
  | fullscreen on =>
    exact toHost fun h _ => here ((w.quiet_desktop _).trans ((World.quiet_setControls _ _).trans
      (World.quiet_recordAll _ (h.controls.setFullscreen_remarks w.desktop on))))
  | cursor visible =>
    exact toHost fun h _ => here ((w.quiet_setControls _).trans
      (World.quiet_recordAll _ (h.controls.setCursor_remarks visible)))
  | terminate =>
    exact toHost fun h _ => here ((w.quiet_log rfl).trans ((World.quiet_setControls _ _).trans
      (World.quiet_recordAll _ h.controls.terminate_remarks)))
  | runMain =>
    unfold begin
    dsimp only
    split
    · exact .round thread light_nil plain_nil
    · exact here (.refl w)
  | newHandle =>
    apply here
    split
    · exact World.quiet_of_eq rfl rfl rfl rfl rfl rfl
    · exact .refl w
  | dropHandle slot => exact .dropHandle slot (.refl _) rfl light_nil plain_nil
  | dropReceiver =>
    unfold begin
    dsimp only
    split
    · exact .dropReceiver
    · exact here (.refl w)
  | dropHost => exact .host (.dropHost (free rfl))
  | attach =>
    exact toHost fun h _ => here ((w.quiet_desktop _).trans (World.quiet_attachWindow _ h _))
  | userFullscreen window on => exact here (w.quiet_desktop _)
  | scale factor => exact here (w.quiet_desktop _)
  | failNextWindow reason => exact here (w.quiet_desktop _)
  | title text =>
    apply toHost
    intro h _
    split
    · exact here (.refl w)
    · exact here (w.quiet_setPlatform _)
  | event e =>
    apply toHost
    intro h hosted
    split
    · exact here (.refl w)
    · exact w.handle_effect h _ hosted thread e (free rfl)

/-- A turn has an effect on the top of the strand's stack and keeps the frames below. -/
theorem Turn.effect {others : List Frame} {σ : Strand} {m : Machine} (h : Turn w others σ m) :
    ∃ popped below n, σ.stack = popped ++ below ∧ (popped = [] ∧ below = [] ∨ ∃ f, popped = [f]) ∧
      StepEffect w (below ++ others) σ.fault popped n ∧ m = { n with stack := n.stack ++ below } := by
  cases h with
  | step =>
    obtain ⟨fault, answer, stack⟩ := σ
    cases stack with
    | nil =>
      exact ⟨[], [], ⟨w, fault, answer, []⟩, rfl, .inl ⟨rfl, rfl⟩, .quiet (.refl w) light_nil
        plain_nil, rfl⟩
    | cons f below =>
      cases fault with
      | none => exact ⟨[f], below, f.advance w answer, rfl, .inr ⟨f, rfl⟩, f.effect_advance answer, rfl⟩
      | some raised =>
        exact ⟨[f], below, f.unwind w raised, rfl, .inr ⟨f, rfl⟩, f.effect_unwind raised, rfl⟩
  | begin r thread idle free =>
    exact ⟨[], [], r.begin w thread, by simp [idle], .inl ⟨rfl, rfl⟩, r.effect w thread free, by simp⟩

/-- The strand `σ` of `s` takes a turn with the effect `effect`; the other strands keep their state. -/
structure Act (s t : System) (σ : Strand) (popped below : List Frame) (others : List Strand)
    (n : Machine) : Prop where
  stack : σ.stack = popped ++ below
  top : popped = [] ∧ below = [] ∨ ∃ f, popped = [f]
  effect : StepEffect s.world (below ++ framesOf others) σ.fault popped n
  world : t.world = n.world
  before : s.frames.Perm (popped ++ (below ++ framesOf others))
  after : t.frames.Perm (n.stack ++ (below ++ framesOf others))
  old : ∀ τ, τ ∈ s.strands ↔ τ = σ ∨ τ ∈ others
  new : ∀ τ, τ ∈ t.strands ↔ τ = ⟨n.fault, n.answer, n.stack ++ below⟩ ∨ τ ∈ others

theorem Turn.act {σ : Strand} {m : Machine} (before after : List Strand)
    (h : Turn w (framesOf (before ++ after)) σ m) :
    ∃ popped below n, Act ⟨w, before ++ σ :: after⟩ ⟨m.world, before ++ m.strand :: after⟩ σ popped below
      (before ++ after) n ∧ m = { n with stack := n.stack ++ below } := by
  obtain ⟨popped, below, n, stack, top, effect, rfl⟩ := h.effect
  have place (σ τ : Strand) : τ ∈ before ++ σ :: after ↔ τ = σ ∨ τ ∈ before ++ after := by
    simp only [List.mem_append, List.mem_cons]
    exact or_left_comm
  refine ⟨popped, below, n, ⟨stack, top, effect, rfl, ?_, ?_, place σ, place _⟩, rfl⟩
  · have swap := frames_swap before after σ
    rwa [stack, List.append_assoc] at swap
  · have swap := frames_swap before after (Machine.strand { n with stack := n.stack ++ below })
    rwa [Machine.strand, List.append_assoc] at swap

theorem Move.act {s t : System} (m : Move s t) :
    ∃ σ popped below others n, Act s t σ popped below others n := by
  cases m with
  | turn before σ after h =>
    obtain ⟨popped, below, n, act, _⟩ := h.act before after
    exact ⟨σ, popped, below, _, n, act⟩

theorem Act.mem {s t : System} {σ : Strand} {popped below : List Frame} {others : List Strand}
    {n : Machine}
    (act : Act s t σ popped below others n) : σ ∈ s.strands := (act.old σ).mpr (.inl rfl)

theorem Act.bottom {s t : System} {σ : Strand} {popped below : List Frame} {others : List Strand}
    {n : Machine}
    (act : Act s t σ popped below others n) (none : popped = []) : below = [] := by
  rcases act.top with ⟨_, empty⟩ | ⟨f, one⟩
  · exact empty
  · simp [none] at one

theorem World.post_stack (w : World) (g : Graphics) (thread : Nat) (r : Runnable) (below : List Frame) :
    (w.post g thread r below).stack = .script thread r.body :: .running r.ticket :: below ∨
      (w.post g thread r below).stack = below := by
  unfold World.post
  dsimp only
  split
  · exact .inl rfl
  · exact .inr rfl

theorem World.present_stack (w : World) (saved : Bool) : (w.present saved).stack = [] := by
  unfold World.present
  split <;> rfl

theorem World.ask_stack (w : World) (h : Host) (r : AdapterRequest) : (w.ask h r).stack = [] := by
  unfold World.ask
  dsimp only
  split <;> rfl

theorem World.enterPass_eq {g : Graphics} (thread : Nat) (shared : w.graphics = some g)
    (owned : (g.affinity.bind thread).isCurrent thread = true) :
    w.enterPass thread
      = World.drain ({ w with graphics := some ⟨g.affinity.bind thread, ⟨true⟩, .empty⟩ }.record
        (.passBegan thread))
          thread .graphics g.queue.calls [.pass thread g.gate.allowed .target] := by
  simp only [enterPass, shared, owned, if_true]
  rfl

theorem World.began_mem_drain (w : World) (thread : Nat) (line : Line) (calls : List Runnable)
    (below : List Frame) :
    .began line w.tickets
      (calls.map Runnable.ticket) ∈ (w.drain thread line calls below).world.journal := by
  unfold World.drain
  dsimp only
  split
  · exact List.mem_cons_self
  · exact List.mem_cons_of_mem _ List.mem_cons_self

structure World.Fresh (b : AdapterOptions) (w : World) : Prop where
  journal : ∀ e ∈ w.journal, e.isRemark = true
  graphics : w.graphics = some .new
  waiting : w.channel.waiting = []
  standalone : w.standalone = none
  adapter : w.host.map Host.adapter = some ⟨⟨b.frames, 0, none⟩, b.settings, none⟩
  frames : b.frames ≠ 0

theorem World.fresh_build {v : World} {kind : HostKind} {panel : Panel} {b : AdapterOptions}
    (bare : w.Bare)
    (h : w.build kind panel b = .ok v) : v.Fresh b := by
  have old : ∀ e ∈ w.journal, e.isRemark = true := by
    intro e he
    obtain ⟨text, rfl⟩ := bare.journal e he
    rfl
  by_cases zero : b.frames = 0
  · simp only [build, Adapter.build, Debouncer.new, zero, if_true, Except.map, bind, Except.bind] at h
    cases h
  · simp only [build, Adapter.build, Debouncer.new, zero, if_false, Except.map, bind, Except.bind, pure,
      Except.pure,
      Except.ok.injEq] at h
    subst h
    have built : ∀ e ∈ .log (.buildingAdapter b.frames) :: w.journal, e.isRemark = true :=
      List.forall_mem_cons.mpr ⟨rfl, old⟩
    split
    · exact ⟨List.forall_mem_cons.mpr ⟨rfl, built⟩, rfl, rfl, bare.standalone, rfl, zero⟩
    · exact ⟨built, rfl, rfl, bare.standalone, rfl, zero⟩

end FrameHost
