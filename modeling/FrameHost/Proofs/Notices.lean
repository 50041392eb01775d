import FrameHost.Proofs.Choices
import FrameHost.Proofs.PlatformState

/-!
The notices given to a platform, and the requests it makes to the window system in answer. The requests are
a function of the notices (`Notified.follows`), for any interleaving of strands and scripts.
-/
namespace FrameHost

inductive Creation where
  | made (window : Nat)
  | refused
  | faulty
  deriving DecidableEq, Repr

def Desktop.creation (d : Desktop) : Creation :=
  match d.failure with
  | some _ => .refused
  | none => if d.scale.isPositiveNormal then .made (d.windows.length + 1) else .faulty

inductive Notice where
  /-- An event of the window system, with the outcome that creating a window would have then. -/
  | told (event : WindowEvent) (creation : Creation)
  /-- Termination is requested. -/
  | terminated
  | attached (window : Nat)
  /-- A frame ends, `whole` if without a fault. -/
  | frameEnds (whole : Bool)
  deriving DecidableEq, Repr

def Request.notice? (r : Request) (d : Desktop) : Option Notice :=
  match r with
  | event e => some (.told e d.creation)
  | terminate => some .terminated
  | attach => some (.attached (d.windows.length + 1))
  | _ => none

def Strand.notice? (σ : Strand) (w : World) (begins : Option (Request × Nat)) : Option Notice :=
  if w.host.isNone then none
  else match begins, σ.stack with
    | some (r, _), _ => r.notice? w.desktop
    | none, .frameEnd :: _ => some (.frameEnds σ.fault.isNone)
    | none, _ => none

def Choice.notice? (c : Choice) (s : System) : Option Notice :=
  s.strands[c.place]?.bind fun σ => σ.notice? s.world c.begins

/-- The systems reached from a new platform, with the notices given so far, latest first. -/
inductive Notified (b : AdapterOptions) : List Notice → System → Prop where
  | built {w v : World} {panel : Panel} (strands : Nat) (bare : w.Bare)
      (h : w.build .platform panel b = .ok v) :
      Notified b [] ⟨v, List.replicate strands .idle⟩
  | goes {told : List Notice} {s t : System} {c : Choice} (n : Notified b told s) (m : s.Takes c t) :
      Notified b ((c.notice? s).toList ++ told) t

namespace PlatformState

def initial : PlatformState := ⟨none, none, false⟩

def after (x : PlatformState) : Notice → PlatformState
  | .told .resumed (.made window) => if x.window.isSome then x else ⟨some window, some window, x.exit⟩
  | .terminated => { x with exit := true }
  | .attached window => { x with shown := some window }
  | _ => x

def loopRequests (x : PlatformState) : Notice → List LoopRequest
  | .told .resumed creation =>
      if x.window.isSome then []
      else match creation with
        | .made window => [.redraw window, .window]
        | .refused => [.exit, .window]
        | .faulty => [.window]
  | .told .aboutToWait _ => if x.exit then [.exit] else []
  | .told .closeRequested _ => [.exit]
  | .frameEnds true => (x.window.map LoopRequest.redraw).toList
  | _ => []

end PlatformState

def platformStateOf : List Notice → PlatformState
  | [] => .initial
  | ν :: older => (platformStateOf older).after ν

def loopRequestsOf : List Notice → List LoopRequest
  | [] => []
  | ν :: older => (platformStateOf older).loopRequests ν ++ loopRequestsOf older

def Notice.window? : Notice → Option Nat
  | .told .resumed (.made window) => some window
  | _ => none

def firstWindow : List Notice → Option Nat
  | [] => none
  | ν :: older => (firstWindow older).or ν.window?

/-- The number of notices that count, each judged by the notices before it. -/
def tally (counts : Notice → List Notice → Bool) : List Notice → Nat
  | [] => 0
  | ν :: older => (counts ν older).toNat + tally counts older

def loopRequests (journal : List Event) : List LoopRequest := journal.filterMap Event.loopRequest?

structure World.Hosts (w : World) (x : PlatformState) : Prop where
  platformState : w.platformState? = some (some x)
  receiver : w.channel.receiver = .platform

structure World.Rests (w v : World) : Prop where
  platformState : v.platformState? = w.platformState?
  receiver : w.channel.receiver = .platform → v.channel.receiver = .platform
  loopRequests : loopRequests v.journal = loopRequests w.journal

/-- A platform in state `x` answers the notice `ν` by the step from `w` to `v`. -/
structure World.Follows (w : World) (x : PlatformState) (ν : Notice) (v : World) : Prop where
  hosts : v.Hosts (x.after ν)
  loopRequests : loopRequests v.journal = x.loopRequests ν ++ loopRequests w.journal

theorem platformStateOf_window (told : List Notice) : (platformStateOf told).window = firstWindow told := by
  induction told with
  | nil => rfl
  | cons ν older ih =>
    rw [platformStateOf, firstWindow, ← ih]
    cases ν with
    | told event creation =>
      cases event <;> cases creation <;> cases held : (platformStateOf older).window <;>
        simp [PlatformState.after, Notice.window?, held]
    | _ => cases held : (platformStateOf older).window <;> simp [PlatformState.after, Notice.window?, held]

theorem platformStateOf_exit (told : List Notice) :
    (platformStateOf told).exit = decide (.terminated ∈ told) := by
  induction told with
  | nil => rfl
  | cons ν older ih =>
    rw [platformStateOf]
    cases ν with
    | told event creation =>
      have same : ((platformStateOf older).after (.told event creation)).exit =
        (platformStateOf older).exit := by
        unfold PlatformState.after
        split
        · split <;> rfl
        all_goals first | rfl | contradiction
      rw [same, ih]
      simp
    | terminated => simp [PlatformState.after]
    | _ =>
      simp only [PlatformState.after, ih]
      simp

theorem loopRequests_append (es older : List Event) :
    loopRequests (es ++ older) = loopRequests es ++ loopRequests older :=
  List.filterMap_append

theorem count_loopRequests {loopRequest : LoopRequest} {asks : Event → Bool}
    (same : ∀ e, e.loopRequest? = some loopRequest ↔ asks e = true)
    (journal : List Event) : (loopRequests journal).count loopRequest = journal.countP asks := by
  rw [List.count, loopRequests, List.countP_filterMap]
  refine List.countP_congr fun e _ => ?_
  rw [← same e]
  cases e.loopRequest? <;> simp

theorem loopRequests_inward {es : List Event} (inward : ∀ e ∈ es, e.isInward = true) :
    loopRequests es = [] := by
  refine List.filterMap_eq_nil_iff.mpr fun e he => ?_
  have told := inward e he
  simp only [Event.isInward, Bool.and_eq_true, Option.isNone_iff_eq_none] at told
  exact told.1

section
variable {u v w : World} {x : PlatformState} {ν : Notice}

theorem World.KeepsPlatform.rests (h : w.KeepsPlatform v) : w.Rests v := by
  refine ⟨h.platformState, fun owned => h.receiver.trans owned, ?_⟩
  obtain ⟨es, journal, inward⟩ := h.journal
  rw [journal, loopRequests_append, loopRequests_inward inward, List.nil_append]

theorem World.Rests.trans (h : u.Rests v) (k : v.Rests w) : u.Rests w :=
  ⟨k.platformState.trans h.platformState,
    fun owned => k.receiver (h.receiver owned), k.loopRequests.trans h.loopRequests⟩

theorem World.Rests.hosts (h : w.Rests v) (k : w.Hosts x) : v.Hosts x :=
  ⟨h.platformState.trans k.platformState, h.receiver k.receiver⟩

theorem World.Rests.hostless (h : w.Rests v) (gone : w.host = none) : v.host = none := by
  have platformState := h.platformState
  rw [World.platformState?, World.platformState?, gone, Option.map_none] at platformState
  exact Option.map_eq_none_iff.mp platformState

theorem World.Follows.between {w' v' : World} (before : w.Rests w') (h : w'.Follows x ν v)
    (after : v.Rests v') :
    w.Follows x ν v' :=
  ⟨after.hosts h.hosts, by rw [after.loopRequests, h.loopRequests, before.loopRequests]⟩

theorem World.Hosts.parts (h : w.Hosts x) : ∃ host p c, w.host = some host ∧ host.platform = some p ∧
    host.controls = .window c ∧ x = ⟨p.window, c.window, c.exitRequested⟩ := by
  obtain ⟨host, hosted, platformState⟩ := Option.map_eq_some_iff.mp h.platformState
  unfold Host.platformState? at platformState
  split at platformState
  · rename_i p c platform controls
    exact ⟨host, p, c, hosted, platform, controls, (Option.some.inj platformState).symm⟩
  · cases platformState

theorem World.hosts_of {h : Host} {p : Platform} {c : WindowLink} (hosted : w.host = some h)
    (platform : h.platform = some p) (controls : h.controls = .window c)
    (owned : w.channel.receiver = .platform) : w.Hosts ⟨p.window, c.window, c.exitRequested⟩ := by
  refine ⟨?_, owned⟩
  rw [World.platformState?, hosted, Option.map_some, Host.platformState?, platform, controls]

end

namespace World.Rests

variable {v w : World}

theorem of_eq (platformState : v.platformState? = w.platformState?)
    (receiver : v.channel.receiver = w.channel.receiver)
    (journal : v.journal = w.journal) : w.Rests v :=
  ⟨platformState, fun owned => receiver.trans owned, congrArg FrameHost.loopRequests journal⟩

theorem refl (w : World) : w.Rests w := of_eq rfl rfl rfl

theorem record (w : World) {e : Event} (h : e.loopRequest? = none) : w.Rests (w.record e) := by
  refine ⟨rfl, id, ?_⟩
  rw [World.record, FrameHost.loopRequests, List.filterMap_cons, h]
  rfl

theorem releaseGraphics (w : World) : w.Rests w.releaseGraphics := by
  unfold World.releaseGraphics
  split
  · exact refl w
  · split
    · exact refl w
    · have gone : w.Rests { w with graphics := none } := of_eq rfl rfl rfl
      unfold discardCalls
      split
      · exact gone.trans (World.KeepsPlatform.destroyAll _ _).rests
      · exact gone.trans ((record _ rfl).trans (World.KeepsPlatform.destroyAll _ _).rests)

theorem dropHandle (w : World) (slot : Nat) : w.Rests (w.dropHandle slot) := by
  have emptied : w.Rests { w with handles := w.handles.set slot false } := of_eq rfl rfl rfl
  exact emptied.trans (releaseGraphics _)

end World.Rests

section
variable {w : World} {x : PlatformState} {h : Host} {p : Platform} {c : WindowLink}

theorem World.loopRequests_dropReceiver (w : World) :
    loopRequests w.dropReceiver.journal = loopRequests w.journal :=
  (World.KeepsPlatform.destroyAll { w with channel := { w.channel with receiver := .gone, waiting := [] } }
    w.channel.waiting).rests.loopRequests

theorem World.dropHost_silent (w : World) :
    w.dropHost.host = none ∧ loopRequests w.dropHost.journal = loopRequests w.journal := by
  unfold World.dropHost
  split
  · exact ⟨‹_›, rfl⟩
  · have released := World.Rests.releaseGraphics { w with host := none }
    have gone : ({ w with host := none } : World).releaseGraphics.host = none := released.hostless rfl
    dsimp only
    split
    · obtain ⟨j, eq⟩ := ({ w with host := none } : World).releaseGraphics.dropReceiver_eq
      refine ⟨?_, (World.loopRequests_dropReceiver _).trans released.loopRequests⟩
      rw [eq]
      exact gone
    · exact ⟨gone, released.loopRequests⟩

theorem Frame.rests {f : Frame} (ends : f ≠ .frameEnd) (w : World) (answer : Answer) :
    w.Rests (f.advance w answer).world := by
  cases drops : f.drops with
  | false => exact (f.keepsPlatform w drops ends answer).rests
  | true =>
    obtain ⟨thread, slot, next, rfl⟩ := f.of_drops drops
    exact (World.Rests.dropHandle w slot).trans (.record _ rfl)

theorem World.Rests.follows {v : World} {ν : Notice} (h : w.Rests v) (hosts : w.Hosts x) (same : x.after ν = x)
    (none : x.loopRequests ν = []) : w.Follows x ν v := by
  refine ⟨?_, ?_⟩
  · rw [same]
    exact h.hosts hosts
  · rw [none, h.loopRequests, List.nil_append]

theorem World.Hosts.asks {ν : Notice} {e : Event} {loopRequest : LoopRequest} (hosts : w.Hosts x)
    (same : x.after ν = x)
    (asked : e.loopRequest? = some loopRequest) (loopRequests : x.loopRequests ν = [loopRequest]) :
    w.Follows x ν (w.record e) := by
  refine ⟨?_, ?_⟩
  · rw [same]
    exact ⟨hosts.platformState, hosts.receiver⟩
  · rw [loopRequests, World.record, FrameHost.loopRequests, List.filterMap_cons, asked]
    rfl

theorem World.Rests.skipped (w : World) (answer : Answer) :
    w.Rests (if answer = .flag false then w.log .frameSkipped else w) := by
  split
  · exact .record w rfl
  · exact .refl w

theorem World.endFrame_rests (gone : w.host = none) (answer : Answer) : w.Rests (w.endFrame answer).world := by
  have told := World.Rests.skipped w answer
  unfold World.endFrame
  dsimp only
  rw [told.hostless gone, Option.bind_none]
  exact told

theorem World.endFrame_follows (hosts : w.Hosts x) (answer : Answer) :
    w.Follows x (.frameEnds true) (w.endFrame answer).world := by
  have told := World.Rests.skipped w answer
  obtain ⟨h, p, c, hosted, platform, controls, rfl⟩ := (told.hosts hosts).parts
  have still := told.hosts hosts
  unfold World.endFrame
  dsimp only
  rw [hosted, Option.bind_some, platform]
  obtain ⟨window, title⟩ := p
  cases window with
  | none => exact told.follows hosts rfl rfl
  | some window => exact .between told (still.asks rfl rfl rfl) (.refl _)

theorem World.attachWindow_eq (controls : h.controls = .window c) (window : Nat) :
    w.attachWindow h window = (w.setControls (.window { c with window := some window })).record
      (.commanded window (.cursor c.cursorVisible)) := by
  unfold World.attachWindow
  rw [controls]
  rfl

theorem World.resume_follows (hosted : w.host = some h) (platform : h.platform = some p)
    (controls : h.controls = .window c) (owned : w.channel.receiver = .platform) :
    w.Follows ⟨p.window, c.window, c.exitRequested⟩ (.told .resumed w.desktop.creation)
    (w.resume h p).world := by
  have hosts := World.hosts_of hosted platform controls owned
  have desktop : (w.record (.windowAsked p.title)).desktop = w.desktop := rfl
  cases held : p.window with
  | some window =>
    rw [held] at hosts
    have kept : w.Rests (w.resume h p).world := by
      simp only [World.resume, held, Option.isSome_some, if_true]
      exact .record w rfl
    exact kept.follows hosts (by cases w.desktop.creation <;> rfl) rfl
  | none =>
    rw [held] at hosts
    cases failure : w.desktop.failure with
    | some reason =>
      have refused : w.desktop.creation = .refused := by simp only [Desktop.creation, failure]
      rw [refused]
      simp only [World.resume, held, Option.isSome_none, Bool.false_eq_true, if_false, desktop, failure]
      exact ⟨⟨hosts.platformState, hosts.receiver⟩, rfl⟩
    | none =>
      cases normal : w.desktop.scale.isPositiveNormal with
      | true =>
        have made : w.desktop.creation = .made (w.desktop.windows.length + 1) := by
          simp only [Desktop.creation, failure, normal, if_true]
        rw [made]
        simp only [World.resume, held, Option.isSome_none, Bool.false_eq_true, if_false, desktop, failure,
          normal, if_true, World.attachWindow_eq controls]
        let window := w.desktop.windows.length + 1
        let host := { h with
          controls := .window { c with window := some window },
          platform := some { p with window := some window } }
        refine ⟨World.hosts_of (h := host) (p := { p with window := some window })
          (c := { c with window := some window }) ?_ rfl rfl owned, rfl⟩
        simp only [Machine.proceed, World.setPlatform, World.setControls, World.record, World.log, hosted]
        rfl
      | false =>
        have faulty : w.desktop.creation = .faulty := by
          simp only [Desktop.creation, failure, normal, Bool.false_eq_true, if_false]
        rw [faulty]
        simp only [World.resume, held, Option.isSome_none, Bool.false_eq_true, if_false, desktop, failure,
          normal]
        exact ⟨⟨hosts.platformState, hosts.receiver⟩, rfl⟩

theorem World.handle_follows (hosted : w.host = some h) (platform : h.platform = some p)
    (controls : h.controls = .window c) (owned : w.channel.receiver = .platform) (thread : Nat)
    (e : WindowEvent) :
    w.Follows ⟨p.window, c.window, c.exitRequested⟩ (.told e w.desktop.creation)
    (w.handle h p thread e).world := by
  have hosts := World.hosts_of hosted platform controls owned
  have logged (r : LogRecord) : w.Rests (w.log r) := .record w rfl
  cases e with
  | resumed => exact World.resume_follows hosted platform controls owned
  | aboutToWait =>
    simp only [World.handle, controls, Controls.exitRequested?, Option.some.injEq]
    cases asked : c.exitRequested with
    | true =>
      rw [asked] at hosts
      exact .between (logged _) (((logged _).hosts hosts).asks rfl rfl rfl) (.refl _)
    | false =>
      rw [asked] at hosts
      exact (World.Rests.refl w).follows hosts rfl rfl
  | closeRequested => exact .between (logged _) (((logged _).hosts hosts).asks rfl rfl rfl) (.refl _)
  | resized width height => exact ((logged _).trans (World.KeepsPlatform.ask _ h _).rests).follows hosts rfl rfl
  | redraw => exact (World.KeepsPlatform.round w thread _).rests.follows hosts rfl rfl
  | other => exact (World.Rests.refl w).follows hosts rfl rfl

/-- A request that carries a notice is answered. -/
theorem Request.follows {r : Request} {ν : Notice} (hosts : w.Hosts x) (told : r.notice? w.desktop = some ν)
    (thread : Nat) : w.Follows x ν (r.begin w thread).world := by
  obtain ⟨h, p, c, hosted, platform, controls, rfl⟩ := hosts.parts
  have owned := hosts.receiver
  cases r with
  | event e =>
    obtain rfl := Option.some.inj told
    simp only [begin, ofHost, hosted, platform]
    exact World.handle_follows hosted platform controls owned thread e
  | terminate =>
    obtain rfl := Option.some.inj told
    simp only [begin, ofHost, hosted, controls]
    refine ⟨World.hosts_of (h := { h with controls := .window { c with exitRequested := true } })
      (c := { c with exitRequested := true }) ?_ platform rfl owned, rfl⟩
    simp only [Controls.terminate, WindowLink.terminate, Machine.proceed, World.recordAll, List.foldl_cons,
      List.foldl_nil, World.setControls, World.record, World.log, hosted, Option.map_some]
  | attach =>
    obtain rfl := Option.some.inj told
    simp only [begin, ofHost, hosted, World.attachWindow_eq controls]
    let window := w.desktop.windows.length + 1
    refine ⟨World.hosts_of (h := { h with controls := .window { c with window := some window } })
      (c := { c with window := some window }) rfl platform rfl owned, rfl⟩
  | _ => cases told

theorem Request.rests {r : Request} (untold : w.host = none ∨ r.notice? w.desktop = none) (thread : Nat) :
    w.Rests (r.begin w thread).world ∨
      (r.begin w thread).world.host = none ∧ loopRequests
      (r.begin w thread).world.journal = loopRequests w.journal := by
  have toNobody {f : Host → Machine} (gone : w.host = none) : w.Rests (ofHost w f).world := by
    simp only [ofHost, gone]
    exact .refl w
  cases felt : r.affectsPlatform with
  | false => exact .inl (Request.keepsPlatform w felt thread).rests
  | true =>
    cases r with
    | newHandle =>
      simp only [begin]
      split
      · exact .inl (.of_eq rfl rfl rfl)
      · exact .inl (.refl w)
    | dropHandle slot => exact .inl (.dropHandle w slot)
    | dropReceiver =>
      simp only [begin]
      split
      · -- The receiver of a platform is not free, so the host is no platform.
        rename_i free
        obtain ⟨j, eq⟩ := w.dropReceiver_eq
        refine .inl ⟨?_, fun owned => ?_, w.loopRequests_dropReceiver⟩
        · simp only [Machine.proceed, eq]
          rfl
        · cases free.symm.trans owned
      · exact .inl (.refl w)
    | dropHost => exact .inr w.dropHost_silent
    | terminate => exact .inl (toNobody (untold.resolve_right (by simp [notice?])))
    | attach => exact .inl (toNobody (untold.resolve_right (by simp [notice?])))
    | event e => exact .inl (toNobody (untold.resolve_right (by simp [notice?])))
    | _ => cases felt

end

section
variable {w : World} {x : PlatformState} {others : List Frame} {σ : Strand}
    {begins : Option (Request × Nat)} {m : Machine}

theorem Strand.notice?_of_hosts (hosts : w.Hosts x) : σ.notice? w begins = (match begins, σ.stack with
    | some (r, _), _ => r.notice? w.desktop
    | none, .frameEnd :: _ => some (.frameEnds σ.fault.isNone)
    | none, _ => none) := by
  obtain ⟨h, _, _, hosted, _⟩ := hosts.parts
  simp only [notice?, hosted, Option.isNone_some, Bool.false_eq_true, if_false]

theorem Strand.Takes.follows {ν : Notice} (h : σ.Takes w others begins m) (hosts : w.Hosts x)
    (told : σ.notice? w begins = some ν) : w.Follows x ν m.world := by
  rw [σ.notice?_of_hosts hosts] at told
  cases h with
  | begin r thread => exact Request.follows hosts told thread
  | step =>
    obtain ⟨fault, answer, stack⟩ := σ
    cases stack with
    | nil => cases told
    | cons f below =>
      cases f with
      | frameEnd =>
        obtain rfl := Option.some.inj told
        cases fault with
        | none => exact World.endFrame_follows hosts answer
        | some raised => exact (World.Rests.refl w).follows hosts rfl rfl
      | _ => cases told

theorem Strand.Takes.rests (h : σ.Takes w others begins m) (untold : σ.notice? w begins = none) :
    w.Rests m.world ∨ m.world.host = none ∧ loopRequests m.world.journal = loopRequests w.journal := by
  cases h with
  | begin r thread =>
    refine Request.rests ?_ thread
    cases hosted : w.host with
    | none => exact .inl rfl
    | some h => simpa [notice?, hosted] using untold
  | step =>
    obtain ⟨fault, answer, stack⟩ := σ
    left
    cases stack with
    | nil => exact .refl w
    | cons f below =>
      cases fault with
      | some raised => exact (f.unwind_keepsPlatform w raised).rests
      | none =>
        by_cases ends : f = .frameEnd
        · subst ends
          exact World.endFrame_rests (by simpa [notice?] using untold) answer
        · exact Frame.rests ends w answer

end

section
variable {b : AdapterOptions} {s t : System} {c : Choice} {told : List Notice}

theorem System.Takes.notice (m : s.Takes c t) :
    ∃ σ others n, σ ∈ s.strands ∧ σ.Takes s.world others c.begins n ∧
    t.world = n.world ∧ c.notice? s = σ.notice? s.world c.begins := by
  cases m with
  | @takes w n before σ after place h =>
    refine ⟨σ, _, n, by simp, h, rfl, ?_⟩
    simp [Choice.notice?, ← place]

theorem System.Takes.hostless (m : s.Takes c t) (gone : s.world.host = none) : t.world.host = none := by
  obtain ⟨σ, others, n, _, turn, world, _⟩ := m.notice
  have unheard : σ.notice? s.world c.begins = none := by simp [Strand.notice?, gone]
  rw [world]
  rcases turn.rests unheard with rests | ⟨still, _⟩
  · exact rests.hostless gone
  · exact still

theorem World.hosts_build {w v : World} {panel : Panel} (bare : w.Bare)
    (h : w.build .platform panel b = .ok v) :
    v.Hosts .initial ∧ loopRequests v.journal = [] := by
  have silent : loopRequests w.journal = [] := loopRequests_inward fun e he => by
    obtain ⟨text, rfl⟩ := bare.journal e he
    rfl
  by_cases zero : b.frames = 0
  · simp only [build, Adapter.build, Debouncer.new, zero, if_true, Except.map, bind, Except.bind] at h
    cases h
  · simp only [build, Adapter.build, Debouncer.new, zero, if_false, Except.map, bind, Except.bind, pure,
      Except.pure, if_true, Except.ok.injEq] at h
    subst h
    exact ⟨⟨rfl, rfl⟩, silent⟩

/-- While it exists, a platform has the state and the requests determined by its notices. -/
theorem Notified.follows (n : Notified b told s) :
    (s.world.Hosts (platformStateOf told) ∨ s.world.host = none) ∧
    loopRequests s.world.journal = loopRequestsOf told := by
  induction n with
  | @built w v panel strands bare h =>
    obtain ⟨hosts, silent⟩ := World.hosts_build bare h
    exact ⟨.inl hosts, silent⟩
  | @goes told s t c n m ih =>
    -- A move without a notice keeps or drops the platform; one with a notice is answered.
    obtain ⟨hosting, asked⟩ := ih
    obtain ⟨σ, others, n, _, turn, world, heard⟩ := m.notice
    rw [heard, world]
    cases news : σ.notice? s.world c.begins with
    | none =>
      rcases turn.rests news with rests | ⟨gone, silent⟩
      · exact ⟨hosting.imp rests.hosts rests.hostless, rests.loopRequests.trans asked⟩
      · exact ⟨.inr gone, silent.trans asked⟩
    | some ν =>
      have hosts : s.world.Hosts (platformStateOf told) := by
        refine hosting.resolve_right fun gone => ?_
        simp [Strand.notice?, gone] at news
      have follows := turn.follows hosts news
      exact ⟨.inl follows.hosts, by rw [follows.loopRequests, asked]; rfl⟩

theorem Notified.reachable (n : Notified b told s) : Reachable b s := by
  induction n with
  | built strands bare h => exact .built strands bare h
  | goes _ m ih => exact ih.move m.move

theorem Notified.next (n : Notified b told s) (m : Move s t) : ∃ news, Notified b (news ++ told) t := by
  obtain ⟨c, takes⟩ := m.takes
  exact ⟨_, n.goes takes⟩

end

def Machine.notices : Nat → Machine → List Notice
  | 0, _ => []
  | fuel + 1, m => match m.stack with
      | [] => []
      | _ :: _ => notices fuel m.step ++ (m.strand.notice? m.world none).toList

section
variable {b : AdapterOptions} {m : Machine} {told : List Notice}

theorem Notified.alone_runFor (fuel : Nat) (n : Notified b told m.alone) :
    Notified b (m.notices fuel ++ told) (m.runFor fuel).alone := by
  induction fuel generalizing m told with
  | zero => exact n
  | succ fuel ih =>
    cases busy : m.stack with
    | nil =>
      simp only [Machine.runFor, Machine.notices, busy]
      exact n
    | cons f below =>
      simp only [Machine.runFor, Machine.notices, busy, List.append_assoc]
      have takes : m.alone.Takes ⟨0, none⟩ m.step.alone := .takes [] m.strand [] rfl .step
      exact ih (n.goes takes)

theorem Notified.alone_carryOut (n : Notified b told m.alone) (idle : m.stack = []) (r : Request)
    (thread : Nat) :
    Notified b ((r.begin m.world thread).notices (r.begin m.world thread).weight
        ++ ((m.strand.notice? m.world (some (r, thread))).toList ++ told))
        (r.carryOut m.world thread).alone := by
  have takes : m.alone.Takes ⟨0, some (r, thread)⟩ (r.begin m.world thread).alone :=
    .takes [] m.strand [] rfl (.begin r thread idle (by simp))
  exact (n.goes takes).alone_runFor _

end

theorem notified_samplePlatform : Notified .standard [] Machine.samplePlatform.alone :=
  .built 1 bare_empty samplePlatform_built

end FrameHost
