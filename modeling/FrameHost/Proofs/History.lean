import FrameHost.Proofs.System

/-!
No step or request reads the journal, and only the end of a pass reads the failures scripted for the
renderer. Hence a machine with a longer journal and more scripted failures makes the same steps and writes
the same events (`Machine.since`).
-/
namespace FrameHost

/-- Earlier events of a journal, and failures that the renderer has to report first. -/
structure Past where
  events : List Event
  errors : List RenderError

def World.since (w : World) (past : Past) : World :=
  { w with
    journal := w.journal ++ past.events
    renderer := { w.renderer with failures := past.errors ++ w.renderer.failures } }

def Machine.since (m : Machine) (past : Past) : Machine := { m with world := m.world.since past }

theorem Machine.ite_since {c : Prop} {this that : Decidable c} {m n k l : Machine} {past : Past}
    (holds : m = k.since past) (fails : n = l.since past) :
    @ite Machine c this m n = (@ite Machine c that k l).since past := by
  rw [apply_ite (fun m : Machine => m.since past)]
  exact ite_congr rfl (fun _ => holds) fun _ => fails

namespace World

variable (w : World) (past : Past)

@[simp] theorem host_since : (w.since past).host = w.host := rfl
@[simp] theorem graphics_since : (w.since past).graphics = w.graphics := rfl
@[simp] theorem channel_since : (w.since past).channel = w.channel := rfl
@[simp] theorem standalone_since : (w.since past).standalone = w.standalone := rfl
@[simp] theorem hasTarget_since : (w.since past).renderer.hasTarget = w.renderer.hasTarget := rfl
@[simp] theorem resolution_since : (w.since past).renderer.resolution = w.renderer.resolution := rfl
@[simp] theorem handle?_since (slot : Nat) : (w.since past).handle? slot = w.handle? slot := rfl

variable {past} in
theorem ite_since {c : Prop} {this that : Decidable c} {u v x y : World}
    (holds : u = x.since past) (fails : v = y.since past) :
    @ite World c this u v = (@ite World c that x y).since past := by
  rw [apply_ite (fun v : World => v.since past)]
  exact ite_congr rfl (fun _ => holds) fun _ => fails

theorem record_since (e : Event) : (w.since past).record e = (w.record e).since past := rfl

theorem recordAll_since (es : List Event) :
    (w.since past).recordAll es = (w.recordAll es).since past := by
  induction es generalizing w with
  | nil => rfl
  | cons e es ih => exact ih (w.record e)

theorem destroyAll_since (rs : List Runnable) :
    (w.since past).destroyAll rs = (w.destroyAll rs).since past := recordAll_since w past _

theorem discardCalls_since (q : CallQueue) :
    (w.since past).discardCalls q = (w.discardCalls q).since past := by
  unfold discardCalls
  split
  · exact destroyAll_since w past q.calls
  · exact destroyAll_since (w.log _) past q.calls

theorem releaseGraphics_since : (w.since past).releaseGraphics = w.releaseGraphics.since past := by
  unfold releaseGraphics
  refine ite_since rfl ?_
  rw [graphics_since]
  cases w.graphics with
  | none => rfl
  | some g => exact discardCalls_since { w with graphics := none } past g.queue

theorem dropHandle_since (slot : Nat) :
    (w.since past).dropHandle slot = (w.dropHandle slot).since past :=
  releaseGraphics_since { w with handles := w.handles.set slot false } past

theorem dropReceiver_since : (w.since past).dropReceiver = w.dropReceiver.since past :=
  destroyAll_since { w with channel := { w.channel with receiver := .gone, waiting := [] } } past
    w.channel.waiting

theorem dispatch_since (r : Runnable) : (w.since past).dispatch r = (w.dispatch r).since past := by
  unfold dispatch
  exact ite_since rfl rfl

theorem post_since (g : Graphics) (thread : Nat) (r : Runnable) (below : List Frame) :
    (w.since past).post g thread r below = (w.post g thread r below).since past := by
  unfold post
  dsimp only
  split <;> rfl

theorem drain_since (thread : Nat) (line : Line) (calls : List Runnable) (below : List Frame) :
    (w.since past).drain thread line calls below = (w.drain thread line calls below).since past := by
  unfold drain
  cases calls <;> rfl

theorem nextCall_since (thread activation count : Nat) (rest : List Runnable) :
    (w.since past).nextCall thread activation count rest
      = (w.nextCall thread activation count rest).since past := by
  cases rest <;> rfl

theorem nextMain_since (thread activation queued ran : Nat) :
    (w.since past).nextMain thread activation queued ran
      = (w.nextMain thread activation queued ran).since past := by
  simp only [nextMain, channel_since]
  split
  · rfl
  · split <;> rfl

theorem enterPass_since (thread : Nat) :
    (w.since past).enterPass thread = (w.enterPass thread).since past := by
  simp only [enterPass, graphics_since]
  cases w.graphics with
  | none => rfl
  | some g =>
    dsimp only
    refine Machine.ite_since ?_ rfl
    exact drain_since (World.record { w with graphics := some ⟨g.affinity.bind thread, g.gate.enter.1,
      g.queue.take.2⟩ } (.passBegan thread)) past thread .graphics _ _

theorem draw_since (thread : Nat) (saved : Bool) :
    (w.since past).draw thread saved = (w.draw thread saved).since past := by
  simp only [draw, checkGate, graphics_since]
  split <;> rfl

theorem load_since (thread : Nat) (saved : Bool) (r : Reload) :
    (w.since past).load thread saved r = (w.load thread saved r).since past := by
  obtain ⟨journal, tickets, threads, graphics, handles, channel, standalone,
    ⟨hasTarget, resolution, sticky, failures, onReload, onRender⟩, desktop, host⟩ := w
  simp only [load, checkGate, graphics_since]
  split
  · rfl
  · cases sticky <;> rfl

theorem refresh_since (thread : Nat) (saved : Bool) (a : Adapter) :
    (w.since past).refresh thread saved a = (w.refresh thread saved a).since past := by
  unfold refresh
  rw [resolution_since]
  generalize a.update w.renderer.resolution = u
  obtain ⟨⟨records, reload⟩, a⟩ := u
  have told : ((w.since past).setAdapter a).recordAll (records.map .log)
      = ((w.setAdapter a).recordAll (records.map .log)).since past :=
    recordAll_since (w.setAdapter a) past _
  dsimp only
  rw [told]
  cases reload with
  | none => exact draw_since _ past thread saved
  | some r => exact load_since _ past thread saved r

theorem readTarget_since (thread : Nat) (saved : Bool) :
    (w.since past).readTarget thread saved = (w.readTarget thread saved).since past := by
  simp only [readTarget, hasTarget_since, record_since, host_since]
  split
  · exact refresh_since _ past thread saved _
  · rfl

theorem finishLoad_since (thread : Nat) (saved : Bool) (settings : Settings) :
    (w.since past).finishLoad thread saved settings
      = (w.finishLoad thread saved settings).since past := by
  simp only [finishLoad, host_since]
  cases w.host with
  | none => exact draw_since w past thread saved
  | some h => exact draw_since (w.setAdapter _) past thread saved

/-- The end of a pass pops the oldest failure, so the added failures must be none here. -/
theorem present_since (events : List Event) (saved : Bool) :
    (w.since ⟨events, []⟩).present saved = (w.present saved).since ⟨events, []⟩ := by
  obtain ⟨journal, tickets, threads, graphics, handles, channel, standalone,
    ⟨hasTarget, resolution, sticky, failures, onReload, onRender⟩, desktop, host⟩ := w
  cases failures <;> rfl

theorem endFrame_since (answer : Answer) :
    (w.since past).endFrame answer = (w.endFrame answer).since past := by
  have same : (if answer = .flag false then (w.since past).log .frameSkipped else w.since past)
      = (if answer = .flag false then w.log .frameSkipped else w).since past := by
    split <;> rfl
  simp only [endFrame, same, host_since]
  split <;> rfl

end World

variable (w : World) (past : Past)

theorem Op.perform_since (op : Op) (thread : Nat) (next : Script) :
    op.perform (w.since past) thread next = (op.perform w thread next).since past := by
  cases op with
  | query handle =>
    simp only [perform, World.handle?_since]
    split <;> rfl
  | dropHandle handle =>
    simp only [perform, World.dropHandle_since]
    rfl
  | chain count handle =>
    simp only [perform, World.say, World.record_since, World.handle?_since]
    split
    · exact World.post_since (w.record _).ticketed past _ thread _ _
    · rfl
  | runMain =>
    simp only [perform, World.channel_since]
    exact Machine.ite_since rfl rfl
  | drainQueue =>
    simp only [perform, World.standalone_since]
    cases w.standalone with
    | none => rfl
    | some q => exact World.drain_since { w with standalone := some .empty } past thread .standalone _ _
  | queueLength =>
    simp only [perform, World.standalone_since]
    cases w.standalone <;> rfl
  | failRender error =>
    have last : (past.errors ++ w.renderer.failures) ++ [error] = past.errors ++
      (w.renderer.failures ++ [error]) :=
      List.append_assoc ..
    exact congrArg (fun failures => Machine.proceed
      { w.since past with renderer := { w.renderer with failures } } [.script thread next]) last
  | _ => rfl

theorem Nest.perform_since (kind : Nest) (thread : Nat) (body next : Script) :
    kind.perform (w.since past) thread body next = (kind.perform w thread body next).since past := by
  cases kind with
  | times count => cases count <;> rfl
  | push handle label =>
    simp only [perform, World.handle?_since]
    cases w.handle? handle with
    | none => rfl
    | some g => exact World.post_since w.ticketed past g thread _ _
  | dispatch sender label =>
    have sent : (if w.channel.hasSender sender then
        (w.ticketed.since past).dispatch (w.runnable label body) else (w.say "no sender").since past)
        = (if w.channel.hasSender sender then w.ticketed.dispatch (w.runnable label body)
          else w.say "no sender").since past :=
      World.ite_since (w.ticketed.dispatch_since past _) rfl
    exact congrArg (fun v => Machine.proceed v [.script thread next]) sent
  | enqueue label =>
    simp only [perform, World.standalone_since]
    cases w.standalone <;> rfl
  | install hook => cases hook <;> rfl
  | _ => rfl

theorem Frame.advance_since (f : Frame) (answer : Answer)
    (same : past.errors = [] ∨ ∀ thread saved, f ≠ .pass thread saved .presenting) :
    f.advance (w.since past) answer = (f.advance w answer).since past := by
  cases f with
  | script thread rest =>
    cases rest with
    | done => rfl
    | act op next => exact op.perform_since w past thread next
    | nest kind body next => exact kind.perform_since w past thread body next
  | batch thread activation rest count => exact w.nextCall_since past thread activation count rest
  | drained => cases answer <;> rfl
  | round thread activation queued ran => exact w.nextMain_since past thread activation queued ran
  | ranMain => cases answer <;> rfl
  | enter thread => exact w.enterPass_since past thread
  | pass thread saved phase =>
    cases phase with
    | target => exact w.readTarget_since past thread saved
    | loaded settings => exact w.finishLoad_since past thread saved settings
    | presenting =>
      obtain ⟨events, errors⟩ := past
      rcases same with none | other
      · obtain rfl : errors = [] := none
        exact w.present_since events saved
      · exact absurd rfl (other thread saved)
  | frameEnd => exact w.endFrame_since past answer
  | _ => rfl

theorem Frame.unwind_since (f : Frame) (fault : Fault) :
    f.unwind (w.since past) fault = (f.unwind w fault).since past := by
  cases f with
  | batch thread activation rest count =>
    exact congrArg (fun v => Machine.failing v fault []) (World.destroyAll_since w past rest)
  | _ => rfl

theorem Strand.step_since (σ : Strand)
    (same : past.errors = [] ∨ ∀ thread saved, .pass thread saved .presenting ∉ σ.stack) :
    (σ.on (w.since past)).step = (σ.on w).step.since past := by
  obtain ⟨fault, answer, stack⟩ := σ
  cases stack with
  | nil => rfl
  | cons f below =>
    have lay {m n : Machine} (same : m = n.since past) :
        { m with stack := m.stack ++ below } = Machine.since { n with stack := n.stack ++ below } past := by
      rw [same]
      rfl
    cases fault with
    | none =>
      refine lay (f.advance_since w past answer (same.imp_right fun none thread saved top => ?_))
      exact none thread saved (top ▸ List.mem_cons_self)
    | some raised => exact lay (f.unwind_since w past raised)

namespace World

theorem dropHost_since : (w.since past).dropHost = w.dropHost.since past := by
  unfold dropHost
  rw [host_since]
  cases w.host with
  | none => rfl
  | some h =>
    have released : World.releaseGraphics { w.since past with host := none }
        = (World.releaseGraphics { w with host := none }).since past :=
      releaseGraphics_since { w with host := none } past
    dsimp only
    rw [released]
    exact ite_since (dropReceiver_since _ past) rfl

theorem ask_since (h : Host) (r : AdapterRequest) : (w.since past).ask h r = (w.ask h r).since past := by
  have warned : ((w.since past).record (.requested r)).recordAll (r.warnings.map .log)
      = ((w.record (.requested r)).recordAll (r.warnings.map .log)).since past :=
    recordAll_since (w.record (.requested r)) past _
  unfold ask
  dsimp only
  rw [warned]
  cases h.adapter.request r <;> rfl

theorem attachWindow_since (h : Host) (window : Nat) :
    (w.since past).attachWindow h window = (w.attachWindow h window).since past := by
  unfold attachWindow
  cases h.controls with
  | panel p => rfl
  | window c => exact recordAll_since (w.setControls (.window (c.attach window).1)) past _

theorem resume_since (h : Host) (p : Platform) : (w.since past).resume h p = (w.resume h p).since past := by
  unfold resume
  refine Machine.ite_since rfl ?_
  obtain ⟨journal, tickets, threads, graphics, handles, channel, standalone, renderer,
    ⟨windows, scale, failure⟩, host⟩ := w
  cases failure with
  | some reason => rfl
  | none =>
    refine Machine.ite_since ?_ rfl
    let number := windows.length + 1
    let created : World := ⟨.log (.windowCreated (scale.scale 800).toPixels (scale.scale 600).toPixels scale) ::
      .windowAsked p.title :: journal, tickets, threads, graphics, handles, channel, standalone, renderer,
      ⟨windows ++ [false], scale, none⟩, host⟩
    exact congrArg (fun v : World => Machine.proceed
      ((v.record (.commanded number .redraw)).setPlatform { p with window := some number }) [])
      (created.attachWindow_since past h number)

theorem handle_since (h : Host) (p : Platform) (thread : Nat) (e : WindowEvent) :
    (w.since past).handle h p thread e = (w.handle h p thread e).since past := by
  cases e with
  | resumed => exact w.resume_since past h p
  | aboutToWait => exact Machine.ite_since rfl rfl
  | resized width height => exact ask_since (w.log (.windowResized width height)) past h (.resize width height)
  | _ => rfl

end World

theorem Request.begin_since (r : Request) (thread : Nat) :
    r.begin (w.since past) thread = (r.begin w thread).since past := by
  have toHost {f g : Host → Machine} (served : ∀ h, f h = (g h).since past) :
      ofHost (w.since past) f = (ofHost w g).since past := by
    unfold ofHost
    rw [World.host_since]
    cases w.host with
    | none => rfl
    | some h => exact served h
  have done {v u : World} (same : v = u.since past) :
      Machine.proceed v [] = (Machine.proceed u []).since past := by
    rw [same]
    rfl
  cases r with
  | push label body =>
    refine toHost fun h => ?_
    rw [World.graphics_since]
    cases w.graphics with
    | none => rfl
    | some g => exact World.post_since w.ticketed past g thread _ _
  | dispatch label body => exact toHost fun h => done (w.ticketed.dispatch_since past _)
  | adapter r => exact toHost fun h => w.ask_since past h r
  | fullscreen on =>
    exact toHost fun h => done (World.recordAll_since
      (World.setControls { w with desktop := (h.controls.setFullscreen w.desktop on).2.1 }
        (h.controls.setFullscreen w.desktop on).1) past (h.controls.setFullscreen w.desktop on).2.2)
  | cursor visible =>
    exact toHost fun h => done (World.recordAll_since (w.setControls (h.controls.setCursor visible).1) past _)
  | terminate =>
    exact toHost fun h => done
      (World.recordAll_since ((w.log .terminationRequested).setControls h.controls.terminate.1) past _)
  | runMain =>
    simp only [begin, World.channel_since]
    exact Machine.ite_since rfl rfl
  | newHandle => exact done (World.ite_since rfl rfl)
  | dropHandle slot => exact done (w.dropHandle_since past slot)
  | dropReceiver => exact done (World.ite_since (w.dropReceiver_since past) rfl)
  | dropHost => exact done (w.dropHost_since past)
  | attach =>
    exact toHost fun h => done
      (World.attachWindow_since { w with desktop := w.desktop.openWindow.1 } past h w.desktop.openWindow.2)
  | title text =>
    refine toHost fun h => ?_
    cases h.platform <;> rfl
  | event e =>
    refine toHost fun h => ?_
    cases h.platform with
    | none => rfl
    | some p => exact w.handle_since past h p thread e
  | act | userFullscreen | scale | failNextWindow => rfl
  | render => exact toHost fun h => rfl

theorem Move.grows {s t : System} (m : Move s t) : ∃ es, t.world.journal = es ++ s.world.journal := by
  cases m with
  | @turn w m before σ after h =>
    let young : World := { w with journal := [] }
    cases h with
    | step =>
      have same := Strand.step_since young ⟨w.journal, []⟩ σ (.inl rfl)
      exact ⟨(σ.on young).step.world.journal, congrArg (fun m => m.world.journal) same⟩
    | begin r thread =>
      have same := Request.begin_since young ⟨w.journal, []⟩ r thread
      exact ⟨(r.begin young thread).world.journal, congrArg (fun m => m.world.journal) same⟩

end FrameHost
