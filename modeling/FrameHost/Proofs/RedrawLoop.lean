import FrameHost.Proofs.Notices
import FrameHost.Proofs.PlatformFrame

/-!
The window of a platform and its loop of frames. A platform asks for a window until one is created; a redraw
is requested when the window is created and at the end of each frame, so at most one redraw is outstanding.
-/
namespace FrameHost

def Event.isWish : Event → Bool
  | windowAsked _ => true
  | _ => false

namespace Notice

def isAttempt (ν : Notice) (older : List Notice) : Bool :=
  match ν with
  | told .resumed _ => (firstWindow older).isNone
  | _ => false

def isRedraw : Notice → Bool
  | told .redraw _ => true
  | _ => false

def isFrameEnd : Notice → Bool
  | frameEnds _ => true
  | _ => false

end Notice

def sinceWindow (counts : Notice → Bool) (ν : Notice) (older : List Notice) : Bool :=
  (firstWindow older).isSome && counts ν

theorem tally_sinceWindow {counts : Notice → Bool} {told : List Notice} (none : firstWindow told = none) :
    tally (sinceWindow counts) told = 0 := by
  induction told with
  | nil => rfl
  | cons ν older ih =>
    obtain ⟨none, _⟩ := Option.or_eq_none_iff.mp none
    rw [tally, ih none, sinceWindow, none]
    rfl

theorem firstWindow_append {news told : List Notice} (none : ∀ ν ∈ news, ν.window? = none) :
    firstWindow (news ++ told) = firstWindow told := by
  induction news with
  | nil => rfl
  | cons ν news ih =>
    rw [List.cons_append, firstWindow, none ν List.mem_cons_self, Option.or_none]
    exact ih fun μ hμ => none μ (List.mem_cons_of_mem ν hμ)

theorem platformStateOf_shown {told : List Notice} (alone : ∀ window, .attached window ∉ told) :
    (platformStateOf told).shown = firstWindow told := by
  induction told with
  | nil => rfl
  | cons ν older ih =>
    have shown := ih fun window mem => alone window (List.mem_cons_of_mem ν mem)
    have window := platformStateOf_window older
    rw [platformStateOf, firstWindow]
    cases ν with
    | attached other => exact absurd List.mem_cons_self (alone other)
    | told event creation =>
      cases event <;> cases creation <;> cases held : firstWindow older <;>
        simp [PlatformState.after, Notice.window?, shown, window, held]
    | _ => simp [PlatformState.after, Notice.window?, shown]

theorem count_wishes (told : List Notice) :
    (loopRequestsOf told).count .window = tally Notice.isAttempt told := by
  induction told with
  | nil => rfl
  | cons ν older ih =>
    have window := platformStateOf_window older
    have one : ((platformStateOf older).loopRequests ν).count .window = (ν.isAttempt older).toNat := by
      cases ν with
      | told event creation =>
        cases event with
        | resumed =>
          cases held : firstWindow older <;> cases creation <;>
            simp [PlatformState.loopRequests, Notice.isAttempt, window, held]
        | aboutToWait => cases exit : (platformStateOf older).exit <;>
            simp [PlatformState.loopRequests, Notice.isAttempt, exit]
        | _ => rfl
      | frameEnds whole =>
        cases whole with
        | false => rfl
        | true => cases held : (platformStateOf older).window <;>
            simp [PlatformState.loopRequests, Notice.isAttempt, held]
      | _ => rfl
    rw [loopRequestsOf, List.count_append, one, ih, tally]

/-- A redraw is requested when the window is created and when a frame ends without a fault. -/
theorem PlatformState.redraws (older : List Notice) (ν : Notice) (window : Nat) :
    ((platformStateOf older).loopRequests ν).count (.redraw window)
      = (if firstWindow older = none ∧ ν.window? = some window then 1 else 0)
        + (if firstWindow older = some window ∧ ν = .frameEnds true then 1 else 0) := by
  have held := platformStateOf_window older
  cases ν with
  | told event creation =>
    cases event with
    | resumed =>
      cases first : firstWindow older <;> cases creation <;>
        simp [PlatformState.loopRequests, Notice.window?, held, first, List.count_cons]
    | aboutToWait =>
      cases exit : (platformStateOf older).exit <;> simp [PlatformState.loopRequests, Notice.window?, exit]
    | _ => simp [PlatformState.loopRequests, Notice.window?]
  | frameEnds whole =>
    cases whole with
    | false => simp [PlatformState.loopRequests, Notice.window?]
    | true =>
      cases first : firstWindow older <;>
        simp [PlatformState.loopRequests, Notice.window?, held, first, List.count_cons]
  | _ => simp [PlatformState.loopRequests, Notice.window?]

theorem redraw_mem {told : List Notice} {window : Nat} (mem : .redraw window ∈ loopRequestsOf told) :
    firstWindow told = some window := by
  induction told with
  | nil => cases mem
  | cons ν older ih =>
    rw [firstWindow]
    rcases List.mem_append.mp mem with now | before
    · have asked := List.count_pos_iff.mpr now
      rw [PlatformState.redraws] at asked
      by_cases fresh : firstWindow older = none ∧ ν.window? = some window
      · rw [fresh.1, fresh.2, Option.none_or]
      · by_cases held : firstWindow older = some window ∧ ν = .frameEnds true
        · rw [held.1, Option.some_or]
        · simp [fresh, held] at asked
    · rw [ih before, Option.some_or]

theorem count_redraws {told : List Notice} {window : Nat} (made : firstWindow told = some window)
    (calm : .frameEnds false ∉ told) :
    (loopRequestsOf told).count (.redraw window) = 1 + tally (sinceWindow Notice.isFrameEnd) told := by
  induction told with
  | nil => cases made
  | cons ν older ih =>
    have whole : ν = .frameEnds true ↔ ν.isFrameEnd = true := by
      cases ν with
      | frameEnds whole =>
        cases whole with
        | false => exact absurd List.mem_cons_self calm
        | true => simp [Notice.isFrameEnd]
      | _ => simp [Notice.isFrameEnd]
    rw [loopRequestsOf, List.count_append, PlatformState.redraws, tally, sinceWindow]
    rw [firstWindow] at made
    cases held : firstWindow older with
    | none =>
      -- This notice creates the window, so no redraw was requested before.
      rw [held, Option.none_or] at made
      have silent : (loopRequestsOf older).count (.redraw window) = 0 :=
        List.count_eq_zero.mpr fun mem => by simp [redraw_mem mem] at held
      simp [made, silent, tally_sinceWindow held]
    | some first =>
      rw [held, Option.some_or] at made
      obtain rfl := Option.some.inj made
      rw [ih held fun mem => calm (List.mem_cons_of_mem ν mem)]
      cases ends : ν.isFrameEnd <;> simp [whole, ends]

section
variable {w : World} {x : PlatformState} {others : List Frame} {σ : Strand}
    {begins : Option (Request × Nat)} {m : Machine}

theorem HostFrameMove.frameless {v : World} {popped laid : List Frame}
    (l : HostFrameMove w others popped v laid)
    (later : popped ≠ [] ∨ Roundless laid) : .frameEnd ∉ laid := by
  intro mem
  cases l with
  | plain none => cases none _ mem
  | render => simp at mem
  | redraw thread activation queued fresh =>
    cases later.resolve_left (not_not_intro fresh) _ List.mem_cons_self
  | pass thread saved phase _ _ none =>
    rcases List.mem_append.mp mem with own | last
    · cases none _ own
    · simp at last

theorem Strand.frames_step (σ : Strand) (hosts : w.Hosts x) :
    (σ.on w).step.stack.count .frameEnd + ((σ.notice? w none).any Notice.isFrameEnd).toNat
      = σ.stack.count .frameEnd + ((σ.notice? w none).any Notice.isRedraw).toNat := by
  rw [σ.notice?_of_hosts hosts]
  obtain ⟨fault, answer, stack⟩ := σ
  cases stack with
  | nil => rfl
  | cons f below =>
    have above : ((Strand.mk fault answer (f :: below)).on w).step.stack.count .frameEnd
        = below.count .frameEnd := by
      cases fault with
      | none =>
        have effect : StepEffect w [] none [f] (f.advance w answer) := f.effect_advance answer
        simp only [Strand.on, Machine.step, List.count_append,
          List.count_eq_zero.mpr (effect.hostFrameMove.frameless (.inl (List.cons_ne_nil f []))), Nat.zero_add]
      | some raised => simp only [Strand.on, Machine.step, f.unwind_stack, List.nil_append]
    rw [above, List.count_cons]
    cases f <;> simp [Notice.isFrameEnd, Notice.isRedraw]

theorem Request.frames {r : Request} (hosts : w.Hosts x) (thread : Nat)
    (free : r.needsHost = true → ∀ f ∈ others, f.holdsHost = false) :
    (r.begin w thread).stack.count .frameEnd = ((r.notice? w.desktop).any Notice.isRedraw).toNat := by
  by_cases redraw : r = .event .redraw
  · subst redraw
    obtain ⟨h, p, c, hosted, platform, _⟩ := hosts.parts
    rw [begin_redraw hosted platform]
    simp [World.round, Machine.proceed, notice?, Notice.isRedraw]
  · have owned : w.channel.receiver ≠ .free := by simp [hosts.receiver]
    have roundless := (r.roundless owned thread).resolve_right fun both => redraw both.1
    have effect : StepEffect w others none [] (r.begin w thread) := r.effect w thread free
    rw [List.count_eq_zero.mpr (effect.hostFrameMove.frameless (.inr roundless))]
    cases r with
    | event e => cases e <;> first | rfl | exact absurd rfl redraw
    | _ => rfl

/-- A frame is under way from the event that begins it to its end. -/
theorem Strand.Takes.frames (h : σ.Takes w others begins m) (hosts : w.Hosts x) :
    m.stack.count .frameEnd + ((σ.notice? w begins).any Notice.isFrameEnd).toNat
      = σ.stack.count .frameEnd + ((σ.notice? w begins).any Notice.isRedraw).toNat := by
  cases h with
  | step => exact σ.frames_step hosts
  | begin r thread idle free =>
    rw [σ.notice?_of_hosts hosts, Request.frames hosts thread free, idle]
    cases r <;> simp [Request.notice?, Notice.isFrameEnd]

end

section
variable {b : AdapterOptions} {s t x : System} {c : Choice} {told : List Notice} {window : Nat}

theorem HostStack.one_frame {fs : List Frame} (hostStack : HostStack fs) : fs.count .frameEnd ≤ 1 := by
  induction fs with
  | nil => exact Nat.zero_le _
  | cons f below ih =>
    cases f with
    | enter thread => rcases hostStack with rfl | rfl <;> simp
    | pass thread saved phase => rcases hostStack with rfl | rfl <;> simp
    | frameEnd =>
      obtain rfl : below = [] := hostStack
      simp
    | _ => simpa using ih hostStack.2

theorem Reachable.one_frame (h : Reachable b s) : s.frames.count .frameEnd ≤ 1 := by
  by_cases inFrame : .frameEnd ∈ s.frames
  · obtain ⟨σ, hσ, mem⟩ := List.mem_flatMap.mp inFrame
    obtain ⟨before, after, split⟩ := List.append_of_mem hσ
    have all := h.sole σ hσ ⟨.frameEnd, mem, rfl⟩
    rw [System.frames, split, (frames_swap before after σ).countP_eq, List.countP_append] at all
    have none : (framesOf (before ++ after)).countP Frame.holdsHost = 0 := by omega
    have others : (framesOf (before ++ after)).count .frameEnd = 0 :=
      List.count_eq_zero.mpr fun other => List.countP_eq_zero.mp none _ other rfl
    rw [System.frames, split, (frames_swap before after σ).count_eq, List.count_append, others]
    exact (h.hostStack σ hσ).one_frame
  · rw [List.count_eq_zero.mpr inFrame]
    exact Nat.zero_le 1

theorem System.Takes.frames {y : PlatformState} (m : s.Takes c t) (hosts : s.world.Hosts y) :
    t.frames.count .frameEnd + ((c.notice? s).any Notice.isFrameEnd).toNat
      = s.frames.count .frameEnd + ((c.notice? s).any Notice.isRedraw).toNat := by
  cases m with
  | @takes w n before σ after place h =>
    have own := h.frames hosts
    have heard : c.notice? ⟨w, before ++ σ :: after⟩ = σ.notice? w c.begins := by simp [Choice.notice?, ← place]
    have older := (frames_swap before after σ).count_eq .frameEnd
    have newer := (frames_swap before after n.strand).count_eq .frameEnd
    rw [List.count_append] at older newer
    simp only [System.frames, heard, older, newer]
    have same : n.strand.stack = n.stack := rfl
    rw [same]
    omega

theorem Notice.resumed_of_window {ν : Notice} (made : ν.window? = some window) :
    ν = .told .resumed (.made window) := by
  unfold window? at made
  split at made
  · rw [Option.some.inj made]
  · cases made

theorem System.Takes.made (m : s.Takes c t) (told : c.notice? s = some (.told .resumed (.made window))) :
    s.frames.count .frameEnd = 0 := by
  obtain ⟨index, begins⟩ := c
  cases m with
  | @takes w n before σ after place h =>
    obtain rfl : before.length = index := place
    have heard : σ.notice? w begins = some (.told .resumed (.made window)) := by
      simpa [Choice.notice?] using told
    unfold Strand.notice? at heard
    split at heard
    · cases heard
    · cases h with
      | step => cases stack : σ.stack with
        | nil => simp [stack] at heard
        | cons f below => cases f <;> simp [stack] at heard
      | begin r thread idle free =>
        have needs : r.needsHost = true := by
          cases r with
          | event e => rfl
          | _ => cases heard
        have others : (framesOf (before ++ after)).count .frameEnd = 0 :=
          List.count_eq_zero.mpr fun mem => by cases free needs _ mem
        rw [System.frames, (frames_swap before after σ).count_eq, List.count_append, idle, others]
        rfl

theorem Reachable.frameless (h : Reachable b s) (gone : s.world.host = none) :
    s.frames.count .frameEnd = 0 := by
  refine List.count_eq_zero.mpr fun mem => ?_
  have hosted := h.gated.hosted .frameEnd mem rfl
  simp [gone] at hosted

/-- The frames begun since the window was created and not ended are those under way. -/
theorem Notified.underWay (n : Notified b told s) (made : firstWindow told = some window) :
    s.frames.count .frameEnd + tally (sinceWindow Notice.isFrameEnd) told
      = tally (sinceWindow Notice.isRedraw) told := by
  induction n generalizing window with
  | built strands bare h => cases made
  | @goes told s t c n m ih =>
    rcases n.follows.1 with hosts | gone
    · have frames := m.frames hosts
      cases news : c.notice? s with
      | none =>
        rw [news] at frames made
        have before := ih made
        simp only [Option.any_none, Bool.toNat_false, Nat.add_zero] at frames
        rw [frames]
        exact before
      | some ν =>
        rw [news] at frames made
        simp only [Option.any_some] at frames
        simp only [Option.toList_some, List.singleton_append, tally, sinceWindow]
        cases held : firstWindow told with
        | some first =>
          have before := ih held
          simp only [Option.isSome_some, Bool.true_and]
          omega
        | none =>
          -- The window is created by this notice, so no frame has begun since.
          have fresh : ν.window? = some window := by simpa [firstWindow, held] using made
          obtain rfl := Notice.resumed_of_window fresh
          have none := m.made news
          rw [tally_sinceWindow held, tally_sinceWindow held]
          simp only [Notice.isFrameEnd, Notice.isRedraw, Bool.toNat_false, Bool.and_false] at frames ⊢
          omega
    · have unheard : c.notice? s = none := by
        obtain ⟨σ, _, _, _, _, _, heard⟩ := m.notice
        simp [heard, Strand.notice?, gone]
      rw [unheard] at made ⊢
      have before := ih made
      rw [n.reachable.frameless gone] at before
      rw [(n.goes m).reachable.frameless (m.hostless gone)]
      exact before

end

section
variable {b : AdapterOptions} {s t x : System} {told : List Notice} {thread : Nat} {earlier : List System}

theorem Notified.inFrame (n : Notified b told x) (m : Move x t) (inFrame : .frameEnd ∈ x.frames) :
    ∃ news, Notified b (news ++ told) t ∧ firstWindow (news ++ told) = firstWindow told := by
  obtain ⟨c, takes⟩ := m.takes
  refine ⟨_, n.goes takes, firstWindow_append fun ν hν => ?_⟩
  cases made : ν.window? with
  | none => rfl
  | some window =>
    have news : c.notice? x = some (.told .resumed (.made window)) := by
      rw [← Notice.resumed_of_window made]
      exact Option.mem_toList.mp hν
    exact absurd inFrame (List.count_eq_zero.mp (takes.made news))

theorem System.Redraws.notified (r : s.Redraws thread x) (n : Notified b told s) :
    ∃ news, Notified b (news ++ told) x ∧ firstWindow (news ++ told) = firstWindow told := by
  cases r with
  | @redraws w before σ after h p idle free hosted platform =>
    let c : Choice := ⟨before.length, some (.event .redraw, thread)⟩
    have takes : System.Takes c ⟨w, before ++ σ :: after⟩ _ :=
      .takes before σ after rfl (.begin (.event .redraw) thread idle fun _ => free)
    refine ⟨_, n.goes takes, firstWindow_append fun ν hν => ?_⟩
    have heard : c.notice? ⟨w, before ++ σ :: after⟩ = some (.told .redraw w.desktop.creation) := by
      simp [c, Choice.notice?, Strand.notice?, hosted, Request.notice?]
    rw [heard] at hν
    rw [List.mem_singleton.mp hν]
    rfl

theorem Framing.notified (p : Framing s thread (x :: earlier)) (n : Notified b told s) :
    ∃ news, Notified b (news ++ told) x ∧ firstWindow (news ++ told) = firstWindow told := by
  refine p.keeps (fun x => ∃ news, Notified b (news ++ told) x ∧ firstWindow (news ++ told) = firstWindow told)
    (fun x r => r.notified n) fun x y m inFrame => ?_
  rintro ⟨news, before, first⟩
  obtain ⟨newer, next, still⟩ := before.inFrame m inFrame
  rw [← List.append_assoc] at next still
  exact ⟨newer ++ news, next, still.trans first⟩

theorem Framing.hosted (p : Framing s thread (x :: earlier)) : s.world.host.isSome = true := by
  refine p.keeps (fun _ => s.world.host.isSome = true) (fun x r => ?_) fun _ _ _ _ hosted => hosted
  cases r with
  | redraws before σ after idle free hosted => simp [hosted]

theorem count_redraw_loopRequests (journal : List Event) (window : Nat) :
    (loopRequests journal).count (.redraw window) = journal.count (.commanded window .redraw) := by
  refine count_loopRequests (fun e => ?_) journal
  cases e with
  | commanded other command => cases command <;> simp [Event.loopRequest?]
  | _ => simp [Event.loopRequest?]

theorem Notified.redraw_mem (n : Notified b told s) {window : Nat}
    (mem : .commanded window .redraw ∈ s.world.journal) : firstWindow told = some window := by
  have asked : .redraw window ∈ loopRequests s.world.journal := List.mem_filterMap.mpr ⟨_, mem, rfl⟩
  rw [n.follows.2] at asked
  exact FrameHost.redraw_mem asked

/-- A platform asks for a window each time it resumes, until the first one is created, and never again; it
keeps that window, and so do its controls unless another is attached. Redraws are requested only for that
window. While no frame panics, one redraw is requested with the window and one for each frame begun since
that is no longer under way, of which there is at most one. A frame begun before there is a window can end;
if it ends without a fault it has done its main-thread work and its pass, and requests no redraw. -/
theorem redraw_loop_keeps_pace (n : Notified b told s) (calm : .frameEnds false ∉ told) :
    s.world.journal.countP Event.isWish = tally Notice.isAttempt told ∧
      (∀ h, s.world.host = some h → ∃ p c, h.platform = some p ∧ h.controls = .window c ∧
        p.window = firstWindow told ∧
        ((∀ window, .attached window ∉ told) → c.window = firstWindow told)) ∧
      (∀ window, .commanded window .redraw ∈ s.world.journal → firstWindow told = some window) ∧
      s.frames.count .frameEnd ≤ 1 ∧
      (∀ window, firstWindow told = some window →
        s.world.journal.count (.commanded window .redraw) + s.frames.count .frameEnd
          = 1 + tally (sinceWindow Notice.isRedraw) told) ∧
      ∀ thread x earlier, Framing s thread (x :: earlier) → firstWindow told = none →
        (∃ y later t, Framing s thread (y :: later) ∧ x :: earlier <:+ y :: later ∧ Move y t ∧
          .frameEnd ∉ t.frames) ∧
        ∀ t, Move x t → .frameEnd ∉ t.frames → (∀ σ ∈ x.strands, σ.inFrame = true → σ.fault = none) →
          (∀ window, .commanded window .redraw ∉ t.world.journal) ∧
          ∃ between u z later y first calls a flag es,
            x :: earlier = between ++ u :: z :: later ++ y :: first ∧
            Drawn s thread y z u first later calls a flag es ∧ Served s x thread := by
  obtain ⟨hosting, asked⟩ := n.follows
  refine ⟨?_, fun h hosted => ?_, fun window => n.redraw_mem, n.reachable.one_frame, fun window made => ?_,
    fun thread x earlier p unmade => ⟨p.can_end n.reachable, fun t m ended whole => ⟨fun window mem => ?_, ?_⟩⟩⟩
  · have wishes : ∀ e : Event, e.loopRequest? = some .window ↔ e.isWish = true := by
      intro e
      cases e with
      | commanded window command => cases command <;> simp [Event.loopRequest?, Event.isWish]
      | _ => simp [Event.loopRequest?, Event.isWish]
    rw [← count_loopRequests wishes, asked, count_wishes]
  · have hosts := hosting.resolve_right (by simp [hosted])
    obtain ⟨host, p, c, found, platform, controls, parts⟩ := hosts.parts
    obtain rfl : h = host := Option.some.inj (hosted.symm.trans found)
    refine ⟨p, c, platform, controls, ?_, fun alone => ?_⟩
    · rw [← platformStateOf_window, parts]
    · rw [← platformStateOf_shown alone, parts]
  · have underWay := n.underWay made
    have redraws := count_redraws made calm
    rw [← asked, count_redraw_loopRequests] at redraws
    omega
  · obtain ⟨news, before, first⟩ := p.notified n
    obtain ⟨newer, after, still⟩ := before.inFrame m p.inFrame
    have made := after.redraw_mem mem
    rw [still, first, unmade] at made
    cases made
  · have hosts := hosting.resolve_right fun gone => by simpa [gone] using p.hosted
    exact (p.drawn n.reachable hosts.receiver m ended whole).2

end

def Machine.sampleEarly : Machine := (Request.event .redraw).begin Machine.samplePlatform.world 0

def Machine.sampleLoop : Machine :=
  let early := (Request.event .redraw).carryOut Machine.samplePlatform.world 0
  let failing := (Request.failNextWindow "no display").carryOut early.world 0
  let refused := (Request.event .resumed).carryOut failing.world 0
  let resumed := (Request.event .resumed).carryOut refused.world 0
  let framed := (Request.event .redraw).carryOut resumed.world 0
  let again := (Request.event .resumed).carryOut framed.world 0
  (Request.event .redraw).carryOut again.world 0

def sampleLoopNotices : List Notice :=
  [.frameEnds true, .told .redraw (.made 2), .told .resumed (.made 2), .frameEnds true, .told .redraw (.made 2),
    .told .resumed (.made 1), .told .resumed .refused, .frameEnds true, .told .redraw (.made 1)]

theorem notified_sampleLoop : Notified .standard sampleLoopNotices Machine.sampleLoop.alone := by
  have early := notified_samplePlatform.alone_carryOut rfl (.event .redraw) 0
  have failing := early.alone_carryOut (by decide) (.failNextWindow "no display") 0
  have refused := failing.alone_carryOut (by decide) (.event .resumed) 0
  have resumed := refused.alone_carryOut (by decide) (.event .resumed) 0
  have framed := resumed.alone_carryOut (by decide) (.event .redraw) 0
  have again := framed.alone_carryOut (by decide) (.event .resumed) 0
  exact again.alone_carryOut (by decide) (.event .redraw) 0

theorem framing_sampleEarly : ∃ earlier, Framing Machine.samplePlatform.alone 0
    ((Machine.sampleEarly.runFor 6).alone :: earlier) := by
  have begins : Framing Machine.samplePlatform.alone 0 [Machine.sampleEarly.alone] :=
    .begins (.redraws [] Machine.samplePlatform.strand [] rfl (by simp) rfl rfl)
  exact begins.alone_runFor 6 (by decide)

theorem redraw_loop_keeps_pace_sample :
    Notified .standard sampleLoopNotices Machine.sampleLoop.alone ∧ .frameEnds false ∉ sampleLoopNotices ∧
      Machine.sampleLoop.alone.world.journal.countP Event.isWish = 2 ∧
      Machine.sampleLoop.alone.world.journal.count (.commanded 1 .redraw) = 3 ∧
      ∀ window, .commanded window .redraw ∉ (Machine.sampleEarly.runFor 6).step.alone.world.journal := by
  obtain ⟨wishes, _, _, _, redraws, _⟩ := redraw_loop_keeps_pace notified_sampleLoop (by decide)
  obtain ⟨_, _, _, _, _, frames⟩ := redraw_loop_keeps_pace notified_samplePlatform (by decide)
  obtain ⟨earlier, p⟩ := framing_sampleEarly
  have early := (frames 0 _ earlier p rfl).2 (Machine.sampleEarly.runFor 6).step.alone (.turn [] _ [] .step)
    (by decide) (by decide)
  have idle : Machine.sampleLoop.alone.frames.count .frameEnd = 0 := by decide
  have asked := redraws 1 (by decide)
  rw [idle] at asked
  exact ⟨notified_sampleLoop, by decide, wishes.trans (by decide), asked.trans (by decide), early.1⟩

end FrameHost
