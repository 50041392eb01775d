import FrameHost.Proofs.Stage

/-!
The effects of a turn on the adapter of the host. Requests and the steps of a pass change it, each with its
events and its frames; all other turns keep it.
-/
namespace FrameHost

def AdapterRequest.settings? : AdapterRequest → Option Settings
  | resize .. => none
  | settings s => some s
  | config c => some c.graphics

theorem Adapter.request_ok (a : Adapter) (r : AdapterRequest) :
    ∃ resize, a.request r = .ok ⟨resize, a.settings, r.settings?.or a.pending⟩ := by
  cases r with
  | resize width height => exact ⟨_, rfl⟩
  | settings s => exact ⟨_, rfl⟩
  | config c =>
    have raised : max c.debounceFrames 1 ≠ 0 := by omega
    refine ⟨⟨max c.debounceFrames 1, a.resize.frames, a.resize.target⟩, ?_⟩
    simp only [request, Debouncer.setWindow, if_neg raised]
    rfl

def World.adapter? (w : World) : Option Adapter := w.host.map Host.adapter

/-- The effect of a turn on the adapter, by the fault of the strand and the frames popped. -/
inductive AdapterMove (w : World) (others : List Frame) :
    Option Fault → List Frame → Machine → Prop where
  | aside {fault : Option Fault} {popped : List Frame} {n : Machine}
      (chores : w.Adds Event.isChore n.world) (adapter : n.world.adapter? = w.adapter?)
      (unguarded : guards n.stack = []) : AdapterMove w others fault popped n
  | departs {fault : Option Fault} {n : Machine} (chores : w.Adds Event.isChore n.world)
      (gone : n.world.adapter? = none) (empty : n.stack = [])
      (free : ∀ f ∈ others, f.holdsHost = false) : AdapterMove w others fault [] n
  | asks {fault : Option Fault} {n : Machine} {v : World} {a : Adapter} (r : AdapterRequest)
      (before : w.Adds Event.isChore v)
      (after : (v.record (.requested r)).Adds Event.isChore n.world) (was : w.adapter? = some a)
      (now : ∃ resize, n.world.adapter? = some ⟨resize, a.settings, r.settings?.or a.pending⟩)
      (empty : n.stack = []) (free : ∀ f ∈ others, f.holdsHost = false) :
      AdapterMove w others fault [] n
  | begins {fault : Option Fault} {n : Machine} {thread activation : Nat} {saved : Bool}
      {calls : List Runnable}
      (chores : (w.record (.passBegan thread)).Adds Event.isChore n.world)
      (adapter : n.world.adapter? = w.adapter?)
      (laid : n.stack = [.batch thread activation calls calls.length, .pass thread saved .target]) :
      AdapterMove w others fault [.enter thread] n
  | misses {n : Machine} {thread : Nat} {saved : Bool}
      (journal : n.world.journal
        = .passEnded (some false) :: .log .noRenderTarget :: .targetRead false :: w.journal)
      (adapter : n.world.adapter? = w.adapter?) (empty : n.stack = []) :
      AdapterMove w others none [.pass thread saved .target] n
  | draws {n : Machine} {thread : Nat} {saved : Bool} {a : Adapter} {logs : List Event}
      {body : Script} (chores : ∀ e ∈ logs, e.isChore = true) (was : w.adapter? = some a)
      (idle : (a.update w.renderer.resolution).1.reload = none)
      (journal : n.world.journal = .renderCalled :: (logs ++ .targetRead true :: w.journal))
      (now : n.world.adapter? = some (a.update w.renderer.resolution).2)
      (laid : n.stack = [.script thread body, .pass thread saved .presenting]) :
      AdapterMove w others none [.pass thread saved .target] n
  | loads {n : Machine} {thread : Nat} {saved : Bool} {a : Adapter} {logs : List Event} {r : Reload}
      {body : Script} (chores : ∀ e ∈ logs, e.isChore = true) (was : w.adapter? = some a)
      (due : (a.update w.renderer.resolution).1.reload = some r)
      (journal : n.world.journal
        = .reloaded r.settings r.resolution :: (logs ++ .targetRead true :: w.journal))
      (now : n.world.adapter? = some (a.update w.renderer.resolution).2)
      (laid : n.stack = [.script thread body, .pass thread saved (.loaded r.settings)]) :
      AdapterMove w others none [.pass thread saved .target] n
  | returns {n : Machine} {thread : Nat} {saved : Bool} {a : Adapter} {settings : Settings}
      {body : Script} (was : w.adapter? = some a)
      (journal : n.world.journal = .renderCalled :: w.journal)
      (now : n.world.adapter? = some (a.loaded settings))
      (laid : n.stack = [.script thread body, .pass thread saved .presenting]) :
      AdapterMove w others none [.pass thread saved (.loaded settings)] n
  | presents {n : Machine} {thread : Nat} {saved rendered : Bool} {e : Event}
      (told : e = .rendered ∨ ∃ error, e = .log (.frameFailed error))
      (journal : n.world.journal = .passEnded (some rendered) :: e :: w.journal)
      (adapter : n.world.adapter? = w.adapter?) (empty : n.stack = []) :
      AdapterMove w others none [.pass thread saved .presenting] n
  | aborts {n : Machine} {thread : Nat} {saved : Bool} {phase : Phase} {raised : Fault}
      (journal : n.world.journal = .passEnded none :: w.journal)
      (adapter : n.world.adapter? = w.adapter?) (empty : n.stack = []) :
      AdapterMove w others (some raised) [.pass thread saved phase] n

theorem Gated.gateOpen {w : World} {fs : List Frame} {thread : Nat} {saved : Bool} {phase : Phase}
    (h : Gated w fs) (mem : .pass thread saved phase ∈ fs) : w.GateOpen := by
  have opened := ((h.passes thread saved).mp (mem_guards.mpr ⟨phase, mem⟩)).1
  obtain ⟨g, shared⟩ := Option.isSome_iff_exists.mp (h.shared (h.hosted _ mem rfl))
  rw [World.GateOpen, shared, Option.getD_some, h.gate g shared, opened]
  rfl

section
variable {w : World} {others popped : List Frame} {fault : Option Fault} {n : Machine}

theorem World.ask_adapterMove {v : World} {h : Host} (still : w.Quiet v) (hosted : v.host = some h)
    (r : AdapterRequest) (free : ∀ f ∈ others, f.holdsHost = false) :
    AdapterMove w others fault [] (v.ask h r) := by
  obtain ⟨resize, asked⟩ := h.adapter.request_ok r
  have was : w.adapter? = some h.adapter := by
    rw [adapter?, ← still.adapter, hosted]
    rfl
  obtain ⟨j, eq⟩ := (v.record (.requested r)).recordAll_eq (r.warnings.map .log)
  have warned := (v.record (.requested r)).journal_recordAll (r.warnings.map .log)
  have result : v.ask h r = .proceed
      ((((v.record (.requested r)).recordAll (r.warnings.map .log)).log r.notice).setAdapter
        ⟨resize, h.adapter.settings, r.settings?.or h.adapter.pending⟩) [] := by
    simp only [ask, asked]
  rw [result]
  refine .asks r (still.journal.mono fun _ => Event.isChore_of_isRemark) ?_ was ⟨resize, ?_⟩ rfl free
  · refine ⟨.log r.notice :: (r.warnings.map .log).reverse, ?_, ?_⟩
    · rw [eq] at warned ⊢
      simpa [Machine.proceed, log, record, setAdapter] using warned
    · intro e he
      rcases List.mem_cons.mp he with rfl | warning
      · rfl
      · obtain ⟨x, _, rfl⟩ := List.mem_map.mp (List.mem_reverse.mp warning)
        rfl
  · rw [eq]
    simp [adapter?, Machine.proceed, log, record, setAdapter, hosted]

theorem World.readTarget_adapterMove {thread : Nat} {saved : Bool} (gate : w.GateOpen)
    (hosted : w.host.isSome = true) :
    AdapterMove w others none [.pass thread saved .target] (w.readTarget thread saved) := by
  obtain ⟨h, isHost⟩ := Option.isSome_iff_exists.mp hosted
  have was : w.adapter? = some h.adapter := by simp [adapter?, isHost]
  by_cases present : w.renderer.hasTarget = true
  · have isOpen : (w.record (.targetRead true)).GateOpen := gate
    obtain ⟨logs, onlyLogs, course⟩ := refresh_comesTo thread saved isOpen h.adapter
      (show (w.record (.targetRead true)).host.isSome = true from hosted)
    rw [← readTarget_found thread saved present isHost, World.renderer_record] at course
    have chores : ∀ e ∈ logs, e.isChore = true := by
      intro e he
      obtain ⟨record, rfl⟩ := onlyLogs e he
      rfl
    cases due : (h.adapter.update w.renderer.resolution).1.reload with
    | none =>
      rw [due] at course
      obtain ⟨body, laid⟩ := course.stack
      exact .draws chores was due course.journal course.adapter laid
    | some r =>
      rw [due] at course
      obtain ⟨body, laid⟩ := course.stack
      exact .loads chores was due course.journal course.adapter laid
  · rw [readTarget_absent thread saved (by simpa using present)]
    exact .misses rfl rfl rfl

theorem World.finishLoad_adapterMove {thread : Nat} {saved : Bool} {settings : Settings}
    (gate : w.GateOpen) (hosted : w.host.isSome = true) :
    AdapterMove w others none [.pass thread saved (.loaded settings)]
      (w.finishLoad thread saved settings) := by
  obtain ⟨h, isHost⟩ := Option.isSome_iff_exists.mp hosted
  have was : w.adapter? = some h.adapter := by simp [adapter?, isHost]
  have isOpen : (w.setAdapter (h.adapter.loaded settings)).GateOpen := gate
  have adapter : (w.setAdapter (h.adapter.loaded settings)).host.map Host.adapter
      = some (h.adapter.loaded settings) := by
    simp [setAdapter, isHost]
  have course := draw_comesTo thread saved isOpen adapter
  have finish : w.finishLoad thread saved settings
      = (w.setAdapter (h.adapter.loaded settings)).draw thread saved := by
    simp only [finishLoad, isHost]
  rw [← finish] at course
  obtain ⟨body, laid⟩ := course.stack
  exact .returns was course.journal course.adapter laid

theorem World.present_adapterMove (w : World) (thread : Nat) (saved : Bool) :
    AdapterMove w others none [.pass thread saved .presenting] (w.present saved) := by
  unfold present
  split
  · rename_i error failures _
    exact .presents (.inr ⟨error, rfl⟩) rfl rfl rfl
  · exact .presents (.inl rfl) rfl rfl rfl

theorem HostEffect.adapterMove (d : HostEffect w others fault popped n) (g : Gated w (popped ++ others)) :
    AdapterMove w others fault popped n := by
  have gateOpen {thread : Nat} {saved : Bool} {phase : Phase}
      (top : popped = [.pass thread saved phase]) : w.GateOpen ∧ w.host.isSome = true := by
    have mem : .pass thread saved phase ∈ popped ++ others := by simp [top]
    exact ⟨g.gateOpen mem, g.hosted _ mem rfl⟩
  cases d with
  | dropHost free =>
    have gone := World.Aside.dropHost w
    exact .departs gone.journal gone.adapter rfl free
  | ask still hosted r free => exact World.ask_adapterMove still hosted r free
  | @enter k thread shared owned =>
    obtain ⟨_, activation, laid⟩ := w.enterPass_opens thread shared owned
    have drained := World.Aside.drain
      ({ w with graphics := some ⟨k.affinity.bind thread, ⟨true⟩, .empty⟩ }.record (.passBegan thread))
      thread .graphics k.queue.calls [.pass thread k.gate.allowed .target]
    rw [w.enterPass_eq thread shared owned] at laid ⊢
    exact .begins drained.journal drained.adapter laid
  | target thread saved calm =>
    obtain ⟨gate, hosted⟩ := gateOpen rfl
    rw [calm]
    exact World.readTarget_adapterMove gate hosted
  | loaded thread saved settings calm =>
    obtain ⟨gate, hosted⟩ := gateOpen rfl
    rw [calm]
    exact World.finishLoad_adapterMove gate hosted
  | present thread saved calm =>
    rw [calm]
    exact w.present_adapterMove thread saved
  | abort thread saved phase unwinding =>
    rw [unwinding]
    exact .aborts rfl rfl rfl

theorem StepEffect.adapterMove (d : StepEffect w others fault popped n) (g : Gated w (popped ++ others)) :
    AdapterMove w others fault popped n := by
  rcases d.aside_or_host with ⟨aside, unguarded⟩ | d
  · exact .aside aside.journal aside.adapter unguarded
  · exact d.adapterMove g

end

end FrameHost
