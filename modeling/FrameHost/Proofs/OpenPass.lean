import FrameHost.Proofs.StepEffect

/-!
The pass under way as a function of the journal, and the gate. In every reachable system the gate is open
exactly while a pass has begun and not ended, and every pass is on the thread that began the first one.
-/
namespace FrameHost

/-- The thread of the pass that has begun and not ended. -/
def openPass : List Event → Option Nat
  | [] => none
  | .passBegan thread :: _ => some thread
  | .passEnded _ :: _ => none
  | _ :: older => openPass older

/-- The thread of the first pass of the journal. -/
def captured : List Event → Option Nat
  | [] => none
  | .passBegan thread :: older => (captured older).or (some thread)
  | _ :: older => captured older

def Event.isBracket : Event → Bool
  | passBegan _ | passEnded _ => true
  | _ => false

theorem openPass_append {es : List Event} (h : ∀ e ∈ es, e.isBracket = false) (older : List Event) :
    openPass (es ++ older) = openPass older := by
  induction es with
  | nil => rfl
  | cons e es ih =>
    have rest := ih fun x hx => h x (List.mem_cons_of_mem e hx)
    have head := h e List.mem_cons_self
    cases e <;> first | exact rest | cases head

theorem captured_append {es : List Event} (h : ∀ e ∈ es, e.isBracket = false) (older : List Event) :
    captured (es ++ older) = captured older := by
  induction es with
  | nil => rfl
  | cons e es ih =>
    have rest := ih fun x hx => h x (List.mem_cons_of_mem e hx)
    have head := h e List.mem_cons_self
    cases e <;> first | exact rest | cases head

/-- Whether a script may cause the event. The other events belong to passes and requests. -/
def Event.isChore : Event → Bool
  | requested _ | passBegan _ | passEnded _ | targetRead _ | reloaded .. | renderCalled | rendered =>
    false
  | _ => true

theorem Event.isChore_of_isNote {e : Event} (h : e.isNote = true) : e.isChore = true := by
  cases e <;> first | rfl | cases h

theorem Event.isChore_of_isRemark {e : Event} (h : e.isRemark = true) : e.isChore = true :=
  isChore_of_isNote (isNote_of_isRemark h)

theorem Event.isBracket_of_isChore {e : Event} (h : e.isChore = true) : e.isBracket = false := by
  cases e <;> first | rfl | cases h

structure World.Aside (w v : World) : Prop where
  journal : w.Adds Event.isChore v
  graphics : ∀ k, v.graphics = some k → ∃ g, w.graphics = some g ∧ k.affinity = g.affinity ∧
    k.gate = g.gate
  adapter : v.host.map Host.adapter = w.host.map Host.adapter
  shared : w.host.isSome = true → v.graphics.isSome = w.graphics.isSome

namespace World.Aside

theorem hosted {w v : World} (h : w.Aside v) : v.host.isSome = w.host.isSome := by
  have same := congrArg Option.isSome h.adapter
  simpa using same

theorem trans {u v w : World} (h : u.Aside v) (k : v.Aside w) : u.Aside w := by
  refine ⟨h.journal.trans k.journal, ?_, k.adapter.trans h.adapter, ?_⟩
  · intro g hg
    obtain ⟨g', hg', same, gate⟩ := k.graphics g hg
    obtain ⟨g'', hg'', same', gate'⟩ := h.graphics g' hg'
    exact ⟨g'', hg'', same.trans same', gate.trans gate'⟩
  · intro hosted
    exact (k.shared (h.hosted.trans hosted)).trans (h.shared hosted)

theorem of_adds {w v : World} (journal : w.Adds Event.isChore v) (graphics : v.graphics = w.graphics)
    (adapter : v.host.map Host.adapter = w.host.map Host.adapter) : w.Aside v :=
  ⟨journal, fun k hk => ⟨k, graphics ▸ hk, rfl, rfl⟩, adapter, fun _ => by rw [graphics]⟩

theorem of_eq {w v : World} (journal : v.journal = w.journal) (graphics : v.graphics = w.graphics)
    (host : v.host = w.host) : w.Aside v := of_adds (.of_eq journal) graphics (by rw [host])

theorem refl (w : World) : w.Aside w := of_eq rfl rfl rfl

theorem of_quiet {w v : World} (h : w.Quiet v) : w.Aside v :=
  of_adds (h.journal.mono fun _ => Event.isChore_of_isRemark) h.graphics h.adapter

theorem record (w : World) {e : Event} (h : e.isChore = true) : w.Aside (w.record e) :=
  of_adds (.record w h) rfl rfl

theorem destroyAll (w : World) (rs : List Runnable) : w.Aside (w.destroyAll rs) := by
  have added : w.Adds Event.isChore (w.destroyAll rs) := by
    refine .recordAll w fun e he => ?_
    obtain ⟨r, _, rfl⟩ := List.mem_map.mp he
    rfl
  obtain ⟨j, eq⟩ := w.recordAll_eq (rs.map fun r => .destroyed r.ticket r.label)
  rw [World.destroyAll, eq] at added ⊢
  exact of_adds added rfl rfl

theorem ticketed (w : World) : w.Aside w.ticketed := of_eq rfl rfl rfl

theorem requeue {w : World} {g : Graphics} (shared : w.graphics = some g) (q : CallQueue) :
    w.Aside { w with graphics := some { g with queue := q } } := by
  refine ⟨.of_eq rfl, ?_, rfl, fun _ => by simp [shared]⟩
  intro k hk
  cases hk
  exact ⟨g, shared, rfl, rfl⟩

theorem post {w : World} {g : Graphics} (shared : w.graphics = some g) (thread : Nat) (r : Runnable)
    (below : List Frame) : w.Aside (w.post g thread r below).world := by
  have submitted : w.Aside (w.record (.submitted .graphics r.ticket)) := record w rfl
  unfold World.post
  dsimp only
  split
  · exact submitted.trans (record _ rfl)
  · exact submitted.trans (requeue (w := w.record _) shared _)

theorem dispatch (w : World) (r : Runnable) : w.Aside (w.dispatch r) := by
  have submitted : w.Aside (w.record (.submitted .mainThread r.ticket)) := record w rfl
  unfold World.dispatch
  dsimp only
  split
  · exact submitted.trans ((record _ rfl).trans (record _ rfl))
  · exact submitted.trans (of_eq rfl rfl rfl)

theorem drain (w : World) (thread : Nat) (line : Line) (calls : List Runnable) (below : List Frame) :
    w.Aside (w.drain thread line calls below).world := by
  have began := (ticketed w).trans
      (record _ (e := .began line w.tickets (calls.map Runnable.ticket)) rfl)
  unfold World.drain
  dsimp only
  split
  · exact began
  · exact began.trans (record _ rfl)

theorem round (w : World) (thread : Nat) (below : List Frame) : w.Aside (w.round thread below).world :=
  (ticketed w).trans (record _ rfl)

theorem nextCall (w : World) (thread activation count : Nat) (rest : List Runnable) :
    w.Aside (w.nextCall thread activation count rest).world := by
  cases rest with
  | nil => exact record w rfl
  | cons r rest => exact (record w rfl).trans (record _ rfl)

theorem nextMain (w : World) (thread activation queued ran : Nat) :
    w.Aside (w.nextMain thread activation queued ran).world := by
  unfold World.nextMain
  split
  · rename_i r waiting _ _
    have shorter : w.Aside { w with channel := { w.channel with waiting } } := of_eq rfl rfl rfl
    exact shorter.trans ((record _ rfl).trans (record _ rfl))
  · split
    · exact record w rfl
    · exact (record w rfl).trans (record _ rfl)

theorem dropReceiver (w : World) : w.Aside w.dropReceiver := by
  have gone : w.Aside { w with channel := { w.channel with receiver := .gone, waiting := [] } } :=
    of_eq rfl rfl rfl
  exact gone.trans (destroyAll _ _)

theorem discardCalls (w : World) (q : CallQueue) : w.Aside (w.discardCalls q) := by
  unfold World.discardCalls
  split
  · exact destroyAll _ _
  · exact (record w rfl).trans (destroyAll _ _)

theorem releaseGraphics (w : World) : w.Aside w.releaseGraphics := by
  unfold World.releaseGraphics
  split
  · exact refl w
  · rename_i alone
    have gone : w.Aside { w with graphics := none } := by
      refine ⟨.of_eq rfl, ?_, rfl, ?_⟩
      · intro k hk
        cases hk
      · intro hosted
        simp [hosted] at alone
    split
    · exact refl w
    · exact gone.trans (discardCalls _ _)

theorem dropHandle (w : World) (slot : Nat) : w.Aside (w.dropHandle slot) := by
  have emptied : w.Aside { w with handles := w.handles.set slot false } := of_eq rfl rfl rfl
  exact emptied.trans (releaseGraphics _)

end World.Aside

/-- Both worlds have the same passes begun and ended, and the same gate and affinity. -/
structure World.KeepsGate (w v : World) : Prop where
  openPass : openPass v.journal = openPass w.journal
  captured : captured v.journal = captured w.journal
  graphics : ∀ k, v.graphics = some k → ∃ g, w.graphics = some g ∧ k.affinity = g.affinity ∧
    k.gate = g.gate
  host : v.host.isSome = w.host.isSome
  shared : w.host.isSome = true → v.graphics.isSome = w.graphics.isSome

namespace World.KeepsGate

theorem refl (w : World) : w.KeepsGate w := ⟨rfl, rfl, fun k h => ⟨k, h, rfl, rfl⟩, rfl, fun _ => rfl⟩

theorem trans {u v w : World} (h : u.KeepsGate v) (k : v.KeepsGate w) : u.KeepsGate w := by
  refine ⟨k.openPass.trans h.openPass, k.captured.trans h.captured, ?_, k.host.trans h.host, ?_⟩
  · intro g hg
    obtain ⟨g', hg', same, gate⟩ := k.graphics g hg
    obtain ⟨g'', hg'', same', gate'⟩ := h.graphics g' hg'
    exact ⟨g'', hg'', same.trans same', gate.trans gate'⟩
  · intro hosted
    exact (k.shared (h.host.trans hosted)).trans (h.shared hosted)

theorem of_journal {w v : World} (es : List Event) (journal : v.journal = es ++ w.journal)
    (plain : ∀ e ∈ es, e.isBracket = false) (graphics : v.graphics = w.graphics)
    (host : v.host.isSome = w.host.isSome) : w.KeepsGate v := by
  refine ⟨?_, ?_, ?_, host, fun _ => by rw [graphics]⟩
  · rw [journal, openPass_append plain]
  · rw [journal, captured_append plain]
  · intro k hk
    exact ⟨k, graphics ▸ hk, rfl, rfl⟩

theorem of_eq {w v : World} (journal : v.journal = w.journal) (graphics : v.graphics = w.graphics)
    (host : v.host.isSome = w.host.isSome) : w.KeepsGate v := of_journal [] journal (by simp) graphics host

theorem of_aside {w v : World} (h : w.Aside v) : w.KeepsGate v := by
  obtain ⟨es, journal, chores⟩ := h.journal
  have plain : ∀ e ∈ es, e.isBracket = false := fun e he => Event.isBracket_of_isChore (chores e he)
  refine ⟨?_, ?_, h.graphics, h.hosted, h.shared⟩
  · rw [journal, openPass_append plain]
  · rw [journal, captured_append plain]

theorem of_quiet {w v : World} (h : w.Quiet v) : w.KeepsGate v := of_aside (.of_quiet h)

theorem record (w : World) {e : Event} (h : e.isBracket = false) : w.KeepsGate (w.record e) :=
  of_journal [e] rfl (by simpa using h) rfl rfl

theorem recordAll (w : World) {es : List Event} (h : ∀ e ∈ es, e.isBracket = false) :
    w.KeepsGate (w.recordAll es) := by
  obtain ⟨j, eq⟩ := w.recordAll_eq es
  refine of_journal es.reverse (w.journal_recordAll es) (fun e he => h e (List.mem_reverse.mp he)) ?_ ?_
    <;> rw [eq]

theorem setAdapter (w : World) (a : Adapter) : w.KeepsGate (w.setAdapter a) :=
  of_eq rfl rfl (by simp [World.setAdapter])

theorem ask (w : World) (h : Host) (r : AdapterRequest) : w.KeepsGate (w.ask h r).world := by
  have warned : w.KeepsGate ((w.record (.requested r)).recordAll (r.warnings.map .log)) := by
    refine (record w rfl).trans (recordAll _ fun e he => ?_)
    obtain ⟨x, _, rfl⟩ := List.mem_map.mp he
    rfl
  unfold World.ask
  dsimp only
  split
  · exact warned
  · exact warned.trans ((record _ rfl).trans (setAdapter _ _))

end World.KeepsGate

def Frame.guard? : Frame → Option (Nat × Bool)
  | pass thread saved _ => some (thread, saved)
  | _ => none

def guards (fs : List Frame) : List (Nat × Bool) := fs.filterMap Frame.guard?

@[simp] theorem guards_append (fs gs : List Frame) : guards (fs ++ gs) = guards fs ++ guards gs := by
  simp [guards]

theorem guards_light {fs : List Frame} (h : Light fs) : guards fs = [] := by
  apply List.filterMap_eq_nil_iff.mpr
  intro f hf
  have light := h f hf
  cases f <;> first | rfl | cases light

theorem light_of_plain {fs : List Frame} (h : Plain fs) : Light fs := by
  intro f hf
  have plain := h f hf
  cases f <;> first | rfl | cases plain

theorem passes_plain {fs : List Frame} (h : Plain fs) : fs.countP Frame.isPass = 0 := by
  apply List.countP_eq_zero.mpr
  intro f hf
  have plain := h f hf
  cases f <;> first | exact Bool.false_ne_true | cases plain

theorem hosts_plain {fs : List Frame} (h : Plain fs) : ∀ f ∈ fs, f.holdsHost = false := by
  intro f hf
  have plain := h f hf
  cases f <;> first | rfl | cases plain

structure World.Opens (w v : World) (g : Graphics) (thread : Nat) : Prop where
  openPass : openPass v.journal = some thread
  captured : captured v.journal = (captured w.journal).or (some thread)
  graphics : ∃ k, v.graphics = some k ∧ k.gate.allowed = true ∧ k.affinity = g.affinity.bind thread
  owner : (g.affinity.bind thread).owner = some thread
  host : v.host.isSome = w.host.isSome

structure World.Closes (w v : World) (saved : Bool) : Prop where
  openPass : openPass v.journal = none
  captured : captured v.journal = captured w.journal
  graphics : v.graphics = w.graphics.map fun g => { g with gate := ⟨saved⟩ }
  host : v.host.isSome = w.host.isSome

/-- The effects of a turn on the gate, the host and the frames that hold the host. -/
inductive GateMove (w : World) (others popped : List Frame) : World → List Frame → Prop where
  | keepsGate {v : World} {laid : List Frame} (h : w.KeepsGate v) (same : guards laid = guards popped)
      (passes : laid.countP Frame.isPass ≤ popped.countP Frame.isPass)
      (hosts : ∀ f ∈ laid, f.holdsHost = true → ∃ k ∈ popped, k.holdsHost = true) :
      GateMove w others popped v laid
  | begins {v : World} {laid : List Frame} (h : w.KeepsGate v) (hosted : w.host.isSome = true)
      (fresh : popped = [])
      (free : ∀ f ∈ others, f.holdsHost = false) (none : guards laid = [])
      (one : laid.countP Frame.isPass ≤ 1) : GateMove w others popped v laid
  | departs {v : World} (h : World.KeepsGate { w with host := none } v) (fresh : popped = [])
      (free : ∀ f ∈ others, f.holdsHost = false) : GateMove w others popped v []
  | opens {g : Graphics} (thread : Nat) (shared : w.graphics = some g)
      (owned : (g.affinity.bind thread).isCurrent thread = true) (entered : popped = [.enter thread]) :
      GateMove w others popped (w.enterPass thread).world (w.enterPass thread).stack
  | closes {v : World} {thread : Nat} {saved : Bool} {phase : Phase} (h : w.Closes v saved)
      (left : popped = [.pass thread saved phase]) : GateMove w others popped v []

structure GoesOn (w : World) (thread : Nat) (saved : Bool) (m : Machine) : Prop where
  keepsGate : w.KeepsGate m.world
  stays : ∃ front phase, m.stack = front ++ [.pass thread saved phase] ∧ Plain front

theorem GoesOn.gateMove {w : World} {others : List Frame} {thread : Nat} {saved : Bool} {phase : Phase}
    {m : Machine}
    (h : GoesOn w thread saved m) : GateMove w others [.pass thread saved phase] m.world m.stack := by
  obtain ⟨front, later, stack, plain⟩ := h.stays
  refine .keepsGate h.keepsGate ?_ ?_ ?_
  · rw [stack, guards_append, guards_light (light_of_plain plain)]
    rfl
  · rw [stack, List.countP_append, passes_plain plain]
    exact Nat.le_refl 1
  · intro f _ _
    exact ⟨_, List.mem_cons_self, rfl⟩

theorem GoesOn.after {u w : World} {thread : Nat} {saved : Bool} {m : Machine} (h : u.KeepsGate w)
    (k : GoesOn w thread saved m) : GoesOn u thread saved m := ⟨h.trans k.keepsGate, k.stays⟩

namespace World

variable (w : World) (thread : Nat) (saved : Bool)

theorem draw_goesOn : GoesOn w thread saved (w.draw thread saved) := by
  unfold draw
  split
  · exact ⟨.refl w, [], .presenting, rfl, plain_nil⟩
  · exact ⟨.record w rfl, [.script thread w.renderer.onRender], .presenting, rfl, plain_one rfl⟩

theorem load_goesOn (r : Reload) : GoesOn w thread saved (w.load thread saved r) := by
  unfold load
  split
  · exact ⟨.refl w, [], .presenting, rfl, plain_nil⟩
  · have logged := (KeepsGate.record w (e := .log (.reloading r.settings r.resolution)) rfl).trans
      (KeepsGate.record _ (e := .reloaded r.settings r.resolution) rfl)
    exact ⟨logged.trans (.of_eq rfl rfl rfl), [.script thread w.renderer.onReload],
      .loaded r.settings, rfl, plain_one rfl⟩

theorem refresh_goesOn (a : Adapter) : GoesOn w thread saved (w.refresh thread saved a) := by
  have folded : w.KeepsGate ((w.setAdapter (a.update w.renderer.resolution).2).recordAll
      ((a.update w.renderer.resolution).1.records.map .log)) := by
    refine (KeepsGate.setAdapter w _).trans (KeepsGate.recordAll _ fun e he => ?_)
    obtain ⟨x, _, rfl⟩ := List.mem_map.mp he
    rfl
  unfold refresh
  dsimp only
  split
  · exact .after folded (draw_goesOn _ thread saved)
  · exact .after folded (load_goesOn _ thread saved _)

theorem readTarget_goesOn :
    GoesOn w thread saved (w.readTarget thread saved) ∨ (w.readTarget thread saved).stack = [] := by
  unfold readTarget
  dsimp only
  split
  · exact .inl (.after (.record w rfl) (refresh_goesOn _ thread saved _))
  · exact .inr rfl

theorem finishLoad_goesOn (settings : Settings) :
    GoesOn w thread saved (w.finishLoad thread saved settings) := by
  unfold finishLoad
  split
  · exact .after (.setAdapter w _) (draw_goesOn _ thread saved)
  · exact draw_goesOn w thread saved

theorem endPass_closes (rendered : Bool) : w.Closes (w.endPass saved rendered).world saved :=
  ⟨rfl, rfl, rfl, rfl⟩

theorem Closes.after {u v w : World} {saved : Bool} (h : u.KeepsGate v) (same : v.graphics = u.graphics)
    (k : v.Closes w saved) : u.Closes w saved :=
  ⟨k.openPass, k.captured.trans h.captured, by rw [k.graphics, same], k.host.trans h.host⟩

theorem present_closes : w.Closes (w.present saved).world saved := by
  unfold present
  split
  · rename_i error failures _
    have taken : w.KeepsGate { w with renderer := { w.renderer with failures } } :=
      .of_eq rfl rfl rfl
    exact .after (taken.trans (.record _ rfl)) rfl (endPass_closes _ saved false)
  · exact .after (.record w rfl) rfl (endPass_closes _ saved true)

theorem enterPass_opens {g : Graphics} (shared : w.graphics = some g)
    (owned : (g.affinity.bind thread).isCurrent thread = true) :
    w.Opens (w.enterPass thread).world g thread ∧
      ∃ activation, (w.enterPass thread).stack
        = [.batch thread activation g.queue.calls g.queue.calls.length,
        .pass thread g.gate.allowed .target] := by
  have owner : (g.affinity.bind thread).owner = some thread := by simpa [Affinity.isCurrent] using owned
  let began : World :=
    { w with graphics := some ⟨g.affinity.bind thread, ⟨true⟩, .empty⟩ }.record (.passBegan thread)
  have calm := KeepsGate.of_aside
      (Aside.drain began thread .graphics g.queue.calls [.pass thread g.gate.allowed .target])
  rw [w.enterPass_eq thread shared owned]
  refine ⟨⟨calm.openPass, calm.captured, ⟨⟨g.affinity.bind thread, ⟨true⟩, .empty⟩, ?_, rfl, rfl⟩,
    owner, calm.host⟩, _, rfl⟩
  unfold World.drain
  dsimp only
  split <;> rfl

end World

theorem World.Aside.dropHost (w : World) : World.Aside { w with host := none } w.dropHost := by
  unfold World.dropHost
  split
  · rename_i gone
    exact .of_eq rfl rfl gone
  · have released := releaseGraphics { w with host := none }
    dsimp only
    split
    · exact released.trans (dropReceiver _)
    · exact released

theorem StepEffect.aside_or_host {w : World} {others : List Frame} {fault : Option Fault}
    {popped : List Frame} {n : Machine}
    (d : StepEffect w others fault popped n) :
    (w.Aside n.world ∧ guards n.stack = []) ∨ HostEffect w others fault popped n := by
  have plainly {f : List Frame} (plain : Plain f) : guards f = [] := guards_light (light_of_plain plain)
  cases d with
  | quiet still light plain => exact .inl ⟨.of_quiet still, plainly plain⟩
  | finish ticket => exact .inl ⟨.record w rfl, rfl⟩
  | abandon ticket => exact .inl ⟨.refl w, rfl⟩
  | @post _ below v g thread label body still light plain shared =>
    have posted := World.Aside.post (w := v.ticketed) shared thread (v.runnable label body) below
    refine .inl ⟨(World.Aside.of_quiet still).trans ((World.Aside.ticketed v).trans posted), ?_⟩
    rcases v.ticketed.post_stack g thread (v.runnable label body) below with inline | queued
    · rw [inline]
      exact plainly (f := below) plain
    · rw [queued]
      exact plainly plain
  | dispatch label body light plain =>
    exact .inl ⟨(World.Aside.ticketed w).trans (.dispatch _ _), plainly plain⟩
  | enqueue label body light plain held => exact .inl ⟨.of_adds (.record w rfl) rfl rfl, plainly plain⟩
  | @drain _ below q thread light plain held =>
    have emptied : w.Aside { w with standalone := some .empty } := .of_eq rfl rfl rfl
    exact .inl ⟨emptied.trans (.drain _ thread .standalone q.calls _), plainly (f := below) plain⟩
  | @round _ below thread light plain => exact .inl ⟨.round w thread _, plainly (f := below) plain⟩
  | nextCall thread activation rest count =>
    refine .inl ⟨.nextCall w thread activation count rest, ?_⟩
    cases rest <;> rfl
  | nextMain thread activation queued ran =>
    refine .inl ⟨.nextMain w thread activation queued ran, ?_⟩
    unfold World.nextMain
    split <;> rfl
  | spill thread activation rest count unwinding => exact .inl ⟨.destroyAll w rest, rfl⟩
  | dropHandle slot still _ light plain =>
    exact .inl ⟨(World.Aside.dropHandle w slot).trans (.of_quiet still), plainly plain⟩
  | dropReceiver => exact .inl ⟨.dropReceiver w, rfl⟩
  | render thread hosted free => exact .inl ⟨.refl w, rfl⟩
  | redraw thread hosted free => exact .inl ⟨.round w thread _, rfl⟩
  | host d => exact .inr d

theorem GateMove.task {w v : World} {others popped laid : List Frame} (front : List Frame)
    (h : w.KeepsGate v) (light : Light popped) (plain : Plain laid) (none : guards front = [])
    (passes : front.countP Frame.isPass = 0) (hosts : ∀ f ∈ front, f.holdsHost = false) :
    GateMove w others popped v (front ++ laid) := by
  refine .keepsGate h ?_ ?_ ?_
  · rw [guards_light light, guards_append, none, guards_light (light_of_plain plain)]
    rfl
  · rw [List.countP_append, passes, passes_plain plain]
    exact Nat.zero_le _
  · intro f hf holds
    rcases List.mem_append.mp hf with hf | hf
    · simp [hosts f hf] at holds
    · simp [hosts_plain plain f hf] at holds

theorem GateMove.work {w v : World} {others popped laid : List Frame} (h : w.KeepsGate v)
    (light : Light popped) (plain : Plain laid) : GateMove w others popped v laid :=
  task [] h light plain rfl rfl (by simp)

theorem HostEffect.gateMove {w : World} {others : List Frame} {fault : Option Fault}
    {popped : List Frame} {n : Machine} (d : HostEffect w others fault popped n) :
    GateMove w others popped n.world n.stack := by
  cases d with
  | dropHost free => exact .departs (.of_aside (.dropHost w)) rfl free
  | ask still hosted r free =>
    rw [World.ask_stack]
    exact .work ((World.KeepsGate.of_quiet still).trans (.ask _ _ r)) light_nil plain_nil
  | enter thread shared owned => exact .opens thread shared owned rfl
  | target thread saved =>
    simp only [World.readTarget]
    split
    · exact (GoesOn.after (.record w rfl) (World.refresh_goesOn _ thread saved _)).gateMove
    · exact .closes (.after ((World.KeepsGate.record w rfl).trans (.record _ rfl)) rfl
        (World.endPass_closes _ saved false)) rfl
  | loaded thread saved settings => exact (w.finishLoad_goesOn thread saved settings).gateMove
  | present thread saved =>
    rw [w.present_stack]
    exact .closes (w.present_closes saved) rfl
  | abort thread saved phase => exact .closes ⟨rfl, rfl, rfl, rfl⟩ rfl

/-- Every effect is one of the five moves of the gate. -/
theorem StepEffect.gateMove {w : World} {others : List Frame} {fault : Option Fault} {popped : List Frame}
    {n : Machine}
    (d : StepEffect w others fault popped n) : GateMove w others popped n.world n.stack := by
  cases d with
  | quiet still light plain => exact .work (.of_quiet still) light plain
  | finish ticket => exact .keepsGate (.record w rfl) rfl (Nat.le_refl _) (by simp [Machine.proceed])
  | abandon ticket => exact .keepsGate (.refl w) rfl (Nat.le_refl _) (by simp [Machine.failing])
  | @post _ below v g thread label body still light plain shared =>
    have h : w.Aside (v.ticketed.post g thread (v.runnable label body) below).world :=
      (World.Aside.of_quiet still).trans ((World.Aside.ticketed v).trans
        (World.Aside.post (w := v.ticketed) shared thread _ below))
    rcases v.ticketed.post_stack g thread (v.runnable label body) below with inline | queued
    · rw [inline]
      exact .task [_, _] (.of_aside h) light plain rfl (by simp [Frame.isPass])
        (by simp [Frame.holdsHost])
    · rw [queued]
      exact .work (.of_aside h) light plain
  | dispatch label body light plain =>
    exact .work (.of_aside ((World.Aside.ticketed w).trans (.dispatch _ _))) light plain
  | enqueue label body light plain held =>
    exact .work (.of_aside (.of_adds (.record w rfl) rfl rfl)) light plain
  | @drain _ below q thread light plain held =>
    have emptied : w.Aside { w with standalone := some .empty } := .of_eq rfl rfl rfl
    exact .task [.batch thread w.tickets q.calls q.calls.length]
      (.of_aside (emptied.trans (.drain _ thread .standalone q.calls (.drained :: below)))) light
      (plain_cons (f := .drained) rfl plain) rfl
      (by simp [Frame.isPass]) (by simp [Frame.holdsHost])
  | round thread light plain =>
    exact .task [.round thread w.tickets w.channel.waiting.length 0] (.of_aside (.round w thread _))
      light plain rfl (by simp [Frame.isPass]) (by simp [Frame.holdsHost])
  | nextCall thread activation rest count =>
    have h := World.KeepsGate.of_aside (.nextCall w thread activation count rest)
    cases rest with
    | nil => exact .keepsGate h rfl (Nat.le_refl _) (by simp [World.nextCall, Machine.answering])
    | cons r rest =>
      exact .keepsGate h rfl (Nat.le_refl _)
        (by simp [World.nextCall, World.start, Machine.proceed, Frame.holdsHost])
  | nextMain thread activation queued ran =>
    have h := World.KeepsGate.of_aside (.nextMain w thread activation queued ran)
    unfold World.nextMain at h ⊢
    split at h
    · exact .keepsGate h rfl (Nat.le_refl _) (by simp [World.start, Machine.proceed, Frame.holdsHost])
    · exact .keepsGate h rfl (Nat.le_refl _) (by simp [Machine.answering])
  | spill thread activation rest count unwinding =>
    exact .keepsGate (.of_aside (.destroyAll w rest)) rfl (Nat.le_refl _) (by simp [Machine.failing])
  | dropHandle slot still _ light plain =>
    exact .work (.of_aside ((World.Aside.dropHandle w slot).trans (.of_quiet still))) light plain
  | dropReceiver => exact .work (.of_aside (.dropReceiver w)) light_nil plain_nil
  | render thread hosted free => exact .begins (.refl w) hosted rfl free rfl (Nat.le_refl 1)
  | redraw thread hosted free =>
    exact .begins (.of_aside (.round w thread _)) hosted rfl free rfl (Nat.le_refl 1)
  | host d => exact d.gateMove

/-- At most one pass is under way or about to begin, and gate, owner and saved value are those that the
journal determines. -/
structure Gated (w : World) (fs : List Frame) : Prop where
  single : fs.countP Frame.isPass ≤ 1
  hosted : ∀ f ∈ fs, f.holdsHost = true → w.host.isSome = true
  shared : w.host.isSome = true → w.graphics.isSome = true
  owner : ∀ g, w.graphics = some g → g.affinity.owner = captured w.journal
  gate : ∀ g, w.graphics = some g → g.gate.allowed = (openPass w.journal).isSome
  passes : ∀ thread saved, (thread, saved) ∈ guards fs ↔ openPass w.journal = some thread ∧
    saved = false
  bound : ∀ thread, openPass w.journal = some thread → captured w.journal = some thread

theorem Gated.perm {w : World} {fs gs : List Frame} (p : fs.Perm gs) (h : Gated w fs) : Gated w gs := by
  refine ⟨?_, ?_, h.shared, h.owner, h.gate, ?_, h.bound⟩
  · rw [← p.countP_eq]
    exact h.single
  · intro f hf
    exact h.hosted f (p.mem_iff.mpr hf)
  · intro thread saved
    rw [← h.passes thread saved]
    exact (p.filterMap Frame.guard?).mem_iff.symm

theorem passes_of_free {fs : List Frame} (free : ∀ f ∈ fs, f.holdsHost = false) :
    fs.countP Frame.isPass = 0 := by
  apply List.countP_eq_zero.mpr
  intro f hf
  have idle := free f hf
  cases f <;> first | exact Bool.false_ne_true | cases idle

theorem guards_of_passes {fs : List Frame} (h : fs.countP Frame.isPass = 0) : guards fs = [] := by
  apply List.filterMap_eq_nil_iff.mpr
  intro f hf
  have idle := List.countP_eq_zero.mp h f hf
  cases f <;> first | rfl | exact absurd rfl idle

theorem Gated.openPass_eq_none {w : World} {fs : List Frame} (h : Gated w fs)
    (unguarded : guards fs = []) :
    openPass w.journal = none := by
  cases opened : openPass w.journal with
  | none => rfl
  | some thread =>
    have mem := (h.passes thread false).mpr ⟨opened, rfl⟩
    simp [unguarded] at mem

theorem Gated.of_keepsGate {w v : World} {others popped laid : List Frame} (h : Gated w (popped ++ others))
    (a : w.KeepsGate v) (same : guards laid = guards popped)
    (passes : laid.countP Frame.isPass ≤ popped.countP Frame.isPass)
    (hosts : ∀ f ∈ laid, f.holdsHost = true → ∃ k ∈ popped, k.holdsHost = true) :
    Gated v (laid ++ others) := by
  refine ⟨?_, ?_, ?_, ?_, ?_, ?_, ?_⟩
  · have single := h.single
    rw [List.countP_append] at single ⊢
    omega
  · intro f hf holds
    rw [a.host]
    rcases List.mem_append.mp hf with hf | hf
    · obtain ⟨k, hk, held⟩ := hosts f hf holds
      exact h.hosted k (List.mem_append_left _ hk) held
    · exact h.hosted f (List.mem_append_right _ hf) holds
  · intro hosted
    rw [a.host] at hosted
    rw [a.shared hosted]
    exact h.shared hosted
  · intro k hk
    obtain ⟨g, hg, affinity, _⟩ := a.graphics k hk
    rw [affinity, h.owner g hg, a.captured]
  · intro k hk
    obtain ⟨g, hg, _, gate⟩ := a.graphics k hk
    rw [gate, h.gate g hg, a.openPass]
  · intro thread saved
    rw [guards_append, same, ← guards_append, a.openPass]
    exact h.passes thread saved
  · intro thread opened
    rw [a.captured]
    exact h.bound thread (a.openPass ▸ opened)

theorem Gated.alone {w : World} {f : Frame} {others : List Frame} (h : Gated w (f :: others))
    (pass : f.isPass = true) : others.countP Frame.isPass = 0 := by
  have single := h.single
  rw [List.countP_cons, pass] at single
  simp only [if_true] at single
  omega

theorem Gated.closed {w : World} {thread : Nat} {others : List Frame}
    (h : Gated w (.enter thread :: others)) : openPass w.journal = none := by
  have unguarded : guards (.enter thread :: others) = [] := by
    change guards others = []
    exact guards_of_passes (h.alone rfl)
  exact h.openPass_eq_none unguarded

theorem Gated.opens {w : World} {g : Graphics} {thread : Nat} {others : List Frame}
    (h : Gated w (.enter thread :: others)) (shared : w.graphics = some g)
    (owned : (g.affinity.bind thread).isCurrent thread = true) :
    Gated (w.enterPass thread).world ((w.enterPass thread).stack ++ others) := by
  obtain ⟨o, activation, stack⟩ := w.enterPass_opens thread shared owned
  have one : guards (w.enterPass thread).stack = [(thread, g.gate.allowed)] := by rw [stack]; rfl
  have passes : (w.enterPass thread).stack.countP Frame.isPass = 1 := by rw [stack]; rfl
  obtain ⟨k, opened, allowed, affinity⟩ := o.graphics
  have alone := h.alone rfl
  have unguarded : guards others = [] := guards_of_passes alone
  -- If no thread was captured the pass captures its own; otherwise its thread owns the context.
  have claimed : captured (w.enterPass thread).world.journal = some thread := by
    have owner := o.owner
    rw [Affinity.bind_owner, h.owner g shared] at owner
    rw [o.captured]
    cases before : captured w.journal with
    | none => rfl
    | some first => simpa [before] using owner
  -- Passes do not nest, so the saved value is a closed gate.
  have kept_false : g.gate.allowed = false := by rw [h.gate g shared, h.closed]; rfl
  refine ⟨?_, ?_, ?_, ?_, ?_, ?_, ?_⟩
  · simp [List.countP_append, alone, passes]
  · intro f _ _
    rw [o.host]
    exact h.hosted (.enter thread) List.mem_cons_self rfl
  · intro _
    rw [opened]
    rfl
  · intro g' hg'
    cases opened.symm.trans hg'
    rw [affinity, o.owner, claimed]
  · intro g' hg'
    cases opened.symm.trans hg'
    rw [allowed, o.openPass]
    rfl
  · intro t s
    rw [guards_append, one, unguarded, o.openPass, kept_false]
    simp [eq_comm]
  · intro t ht
    rw [o.openPass] at ht
    rw [claimed, ht]

theorem Gated.closes {w v : World} {thread : Nat} {saved : Bool} {phase : Phase} {others : List Frame}
    (h : Gated w (.pass thread saved phase :: others)) (c : w.Closes v saved) : Gated v others := by
  have alone := h.alone rfl
  have kept_false : saved = false := ((h.passes thread saved).mp List.mem_cons_self).2
  refine ⟨?_, ?_, ?_, ?_, ?_, ?_, ?_⟩
  · rw [alone]
    exact Nat.zero_le 1
  · intro f hf holds
    rw [c.host]
    exact h.hosted f (List.mem_cons_of_mem _ hf) holds
  · intro hosted
    rw [c.graphics, Option.isSome_map]
    exact h.shared (c.host ▸ hosted)
  · intro k hk
    rw [c.graphics] at hk
    obtain ⟨g, hg, rfl⟩ := Option.map_eq_some_iff.mp hk
    rw [c.captured]
    exact h.owner g hg
  · intro k hk
    rw [c.graphics] at hk
    obtain ⟨g, hg, rfl⟩ := Option.map_eq_some_iff.mp hk
    rw [c.openPass, kept_false]
    rfl
  · intro t s
    rw [guards_of_passes alone, c.openPass]
    simp
  · intro t ht
    rw [c.openPass] at ht
    cases ht

theorem GateMove.gated {w v : World} {others popped laid : List Frame}
    (m : GateMove w others popped v laid) (h : Gated w (popped ++ others)) :
    Gated v (laid ++ others) := by
  cases m with
  | keepsGate a same passes hosts => exact h.of_keepsGate a same passes hosts
  | begins a hosted fresh free none one =>
    subst fresh
    have still : Gated v ([] ++ others) := h.of_keepsGate a rfl (Nat.le_refl _) (by simp)
    refine ⟨?_, ?_, still.shared, still.owner, still.gate, ?_, still.bound⟩
    · rw [List.countP_append, passes_of_free free]
      exact one
    · intro f hf holds
      exact a.host.trans hosted
    · intro thread saved
      rw [guards_append, none]
      exact still.passes thread saved
  | departs a fresh free =>
    subst fresh
    -- No frame holds the host, so none needs it later; the context may outlive the host.
    have bare : Gated { w with host := none } ([] ++ others) := by
      refine ⟨h.single, ?_, ?_, h.owner, h.gate, h.passes, h.bound⟩
      · intro f hf holds
        simp [free f hf] at holds
      · intro hosted
        cases hosted
    exact bare.of_keepsGate a rfl (Nat.le_refl _) (by simp)
  | opens thread shared owned entered =>
    subst entered
    exact h.opens shared owned
  | closes c left =>
    subst left
    exact h.closes c

theorem World.Fresh.gated {b : AdapterOptions} {w : World} (fresh : w.Fresh b) : Gated w [] := by
  have plain : ∀ e ∈ w.journal, e.isBracket = false := fun e he =>
    Event.isBracket_of_isChore (Event.isChore_of_isRemark (fresh.journal e he))
  have closed : openPass w.journal = none := by simpa [openPass] using openPass_append plain []
  have unclaimed : captured w.journal = none := by simpa [captured] using captured_append plain []
  refine ⟨Nat.zero_le 1, by simp, fun _ => by rw [fresh.graphics]; rfl, ?_, ?_, ?_, ?_⟩
  · intro g hg
    cases fresh.graphics.symm.trans hg
    rw [unclaimed]
    rfl
  · intro g hg
    cases fresh.graphics.symm.trans hg
    rw [closed]
    rfl
  · simp [guards, closed]
  · simp [closed]

variable {b : AdapterOptions} {s : System}

theorem Reachable.gated (h : Reachable b s) : Gated s.world s.frames := by
  induction h with
  | built strands bare h =>
    simp only [System.frames, framesOf_idle]
    exact (World.fresh_build bare h).gated
  | move _ m ih =>
    obtain ⟨σ, popped, below, others, n, act⟩ := m.act
    rw [act.world]
    exact (act.effect.gateMove.gated (ih.perm act.before)).perm act.after.symm

def System.InPass (s : System) (thread : Nat) : Prop :=
  ∃ saved phase, Frame.pass thread saved phase ∈ s.frames

theorem mem_guards {fs : List Frame} {thread : Nat} {saved : Bool} :
    (thread, saved) ∈ guards fs ↔ ∃ phase, Frame.pass thread saved phase ∈ fs := by
  simp only [guards, List.mem_filterMap]
  constructor
  · rintro ⟨f, hf, eq⟩
    cases f <;> simp only [Frame.guard?, Option.some.injEq, Prod.mk.injEq, reduceCtorEq] at eq
    obtain ⟨rfl, rfl⟩ := eq
    exact ⟨_, hf⟩
  · rintro ⟨phase, hf⟩
    exact ⟨_, hf, rfl⟩

theorem Reachable.inPass_iff (h : Reachable b s) (thread : Nat) :
    s.InPass thread ↔ openPass s.world.journal = some thread := by
  constructor
  · rintro ⟨saved, phase, hf⟩
    exact ((h.gated.passes thread saved).mp (mem_guards.mpr ⟨phase, hf⟩)).1
  · intro opened
    obtain ⟨phase, hf⟩ := mem_guards.mp ((h.gated.passes thread false).mpr ⟨opened, rfl⟩)
    exact ⟨false, phase, hf⟩

/-- Graphics calls are allowed exactly to the captured thread inside a pass. -/
theorem Reachable.allows_iff (h : Reachable b s) {g : Graphics} (shared : s.world.graphics = some g)
    (thread : Nat) :
    g.allows thread = true ↔ g.affinity.owner = some thread ∧ s.InPass thread := by
  have owner := h.gated.owner g shared
  have gate := h.gated.gate g shared
  rw [h.inPass_iff]
  simp only [Graphics.allows, Graphics.inContext, Affinity.isCurrent, Bool.and_eq_true,
    beq_iff_eq, gate]
  apply and_congr_right
  intro owned
  constructor
  · intro opened
    obtain ⟨t, ht⟩ := Option.isSome_iff_exists.mp opened
    rw [owner, h.gated.bound t ht] at owned
    rw [ht, owned]
  · intro opened
    rw [opened]
    rfl

end FrameHost
