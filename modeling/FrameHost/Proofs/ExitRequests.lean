import FrameHost.Proofs.Notices

/-!
When a platform asks its event loop to exit: when its window is closed or cannot be created, and, after a
request for termination, each time the loop is about to wait.
-/
namespace FrameHost

namespace Notice

def isClose : Notice → Bool
  | told .closeRequested _ => true
  | _ => false

def isRefusal (ν : Notice) (older : List Notice) : Bool :=
  match ν with
  | told .resumed .refused => (firstWindow older).isNone
  | _ => false

def isParting (ν : Notice) (older : List Notice) : Bool :=
  match ν with
  | told .aboutToWait _ => decide (.terminated ∈ older)
  | _ => false

end Notice

def World.exitRequested? (w : World) : Option Bool := w.host.bind fun h => h.controls.exitRequested?

theorem count_exit (journal : List Event) :
    (loopRequests journal).count .exit = journal.count .loopExitAsked := by
  refine count_loopRequests (fun e => ?_) journal
  cases e with
  | commanded window command => cases command <;> simp [Event.loopRequest?]
  | _ => simp [Event.loopRequest?]

theorem PlatformState.exits (older : List Notice) (ν : Notice) :
    ((platformStateOf older).loopRequests ν).count .exit
    = ν.isClose.toNat + (ν.isRefusal older).toNat + (ν.isParting older).toNat := by
  have window := platformStateOf_window older
  have exit := platformStateOf_exit older
  cases ν with
  | told event creation =>
    cases event with
    | resumed =>
      cases held : firstWindow older <;> cases creation <;>
        simp [PlatformState.loopRequests, Notice.isClose, Notice.isRefusal, Notice.isParting, window, held]
    | aboutToWait =>
      by_cases asked : .terminated ∈ older <;>
        simp [PlatformState.loopRequests, Notice.isClose, Notice.isRefusal, Notice.isParting, exit, asked]
    | _ => rfl
  | frameEnds whole =>
    cases whole with
    | false => rfl
    | true => cases held : (platformStateOf older).window <;>
        simp [PlatformState.loopRequests, Notice.isClose, Notice.isRefusal, Notice.isParting, held]
  | _ => rfl

theorem count_loopRequestsOf_exit (told : List Notice) : (loopRequestsOf told).count .exit
    = told.countP Notice.isClose + tally Notice.isRefusal told + tally Notice.isParting told := by
  induction told with
  | nil => rfl
  | cons ν older ih =>
    rw [loopRequestsOf, List.count_append, PlatformState.exits, ih, List.countP_cons, tally, tally]
    cases ν.isClose <;> simp only [Bool.toNat_true, Bool.toNat_false, if_true, Bool.false_eq_true, if_false] <;>
      omega

section
variable {b : AdapterOptions} {s : System} {told : List Notice}

theorem Notified.exitRequested (n : Notified b told s) :
    s.world.exitRequested? = s.world.host.map fun _ => decide (.terminated ∈ told) := by
  rcases n.follows.1 with hosts | gone
  · obtain ⟨h, p, c, hosted, _, controls, parts⟩ := hosts.parts
    have exit := congrArg PlatformState.exit parts
    rw [platformStateOf_exit] at exit
    simp only [World.exitRequested?, hosted, Option.bind_some, controls, Controls.exitRequested?,
      Option.map_some, exit]
  · simp only [World.exitRequested?, gone, Option.bind_none, Option.map_none]

/-- The number of exits requested is the number of close requests, of refused first windows, and of waits
after a request for termination; no other notice requests one. The request for termination is remembered
while the platform exists. -/
theorem loop_exits_as_asked (n : Notified b told s) :
    s.world.journal.count .loopExitAsked
        = told.countP Notice.isClose + tally Notice.isRefusal told + tally Notice.isParting told ∧
      s.world.exitRequested? = (s.world.host.map fun _ => decide (.terminated ∈ told)) ∧
      ∀ t, Move s t → s.world.exitRequested? = some true → t.world.exitRequested? ≠ some false := by
  refine ⟨?_, n.exitRequested, fun t m set cleared => ?_⟩
  · rw [← count_exit, n.follows.2, count_loopRequestsOf_exit]
  · obtain ⟨news, next⟩ := n.next m
    rw [n.exitRequested] at set
    rw [next.exitRequested] at cleared
    obtain ⟨_, _, asked⟩ := Option.map_eq_some_iff.mp set
    obtain ⟨_, _, unasked⟩ := Option.map_eq_some_iff.mp cleared
    simp only [decide_eq_true_eq, decide_eq_false_iff_not, List.mem_append, not_or] at asked unasked
    exact unasked.2 asked

end

def Machine.sampleExits : Machine :=
  let failing := (Request.failNextWindow "no display").carryOut Machine.samplePlatform.world 0
  let refused := (Request.event .resumed).carryOut failing.world 0
  let asked := Request.terminate.carryOut refused.world 0
  let parting := (Request.event .aboutToWait).carryOut asked.world 0
  let resumed := (Request.event .resumed).carryOut parting.world 0
  let closing := (Request.event .closeRequested).carryOut resumed.world 0
  (Request.event .aboutToWait).carryOut closing.world 0

def sampleExitNotices : List Notice :=
  [.told .aboutToWait (.made 2), .told .closeRequested (.made 2), .told .resumed (.made 1),
    .told .aboutToWait (.made 1), .terminated, .told .resumed .refused]

theorem notified_sampleExits : Notified .standard sampleExitNotices Machine.sampleExits.alone := by
  have failing := notified_samplePlatform.alone_carryOut rfl (.failNextWindow "no display") 0
  have refused := failing.alone_carryOut (by decide) (.event .resumed) 0
  have asked := refused.alone_carryOut (by decide) .terminate 0
  have parting := asked.alone_carryOut (by decide) (.event .aboutToWait) 0
  have resumed := parting.alone_carryOut (by decide) (.event .resumed) 0
  have closing := resumed.alone_carryOut (by decide) (.event .closeRequested) 0
  exact closing.alone_carryOut (by decide) (.event .aboutToWait) 0

theorem loop_exits_as_asked_sample : Notified .standard sampleExitNotices Machine.sampleExits.alone ∧
    Machine.sampleExits.alone.world.journal.count .loopExitAsked = 4 ∧
    Machine.sampleExits.alone.world.exitRequested? = some true := by
  obtain ⟨exits, known, _⟩ := loop_exits_as_asked notified_sampleExits
  exact ⟨notified_sampleExits, exits.trans (by decide), known.trans (by decide)⟩

end FrameHost
