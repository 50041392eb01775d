import FrameHost.Proofs.FrameStage

/-!
A frame of a platform that owns the receiver. It starts exactly the runnables that waited for the main
thread when it began; calls pushed meanwhile wait for the pass of the same frame, and runnables dispatched
meanwhile wait for the next frame.
-/
namespace FrameHost

/-- The moments of a frame that `thread` begins after `s`, latest first. -/
inductive Framing (s : System) (thread : Nat) : List System → Prop where
  | begins {x : System} (r : s.Redraws thread x) : Framing s thread [x]
  | goes {x y : System} {earlier : List System} (p : Framing s thread (x :: earlier)) (m : Move x y)
      (inFrame : .frameEnd ∈ y.frames) : Framing s thread (y :: x :: earlier)

section
variable {b : AdapterOptions} {s x y t : System} {thread : Nat} {earlier : List System}

/-- The receiver stays with the platform during a frame. -/
theorem Move.keeps_receiver (m : Move x y) (inFrame : .frameEnd ∈ x.frames)
    (owned : x.world.channel.receiver = .platform) : y.world.channel.receiver = .platform := by
  cases m with
  | @turn w _ before σ after turn =>
    have owned : w.channel.receiver = .platform := owned
    have held : σ.stack ≠ [] ∨ ∃ f ∈ framesOf (before ++ after), f.holdsHost = true := by
      rcases List.mem_append.mp ((frames_swap before after σ).mem_iff.mp inFrame) with own | other
      · exact .inl (List.ne_nil_of_mem own)
      · exact .inr ⟨.frameEnd, other, rfl⟩
    exact (turn.receiver (by simp [owned]) held).trans owned

theorem Framing.inFrame (p : Framing s thread (x :: earlier)) : .frameEnd ∈ x.frames := by
  cases p with
  | begins r => exact List.mem_flatMap.mpr ⟨_, r.round.2, by simp⟩
  | goes _ _ inFrame => exact inFrame

theorem Framing.keeps (holds : System → Prop) (p : Framing s thread (x :: earlier))
    (begins : ∀ x, s.Redraws thread x → holds x)
    (goes : ∀ x y, Move x y → .frameEnd ∈ x.frames → holds x → holds y) : holds x := by
  generalize same : x :: earlier = moments at p
  induction p generalizing x earlier with
  | begins r =>
    cases same
    exact begins _ r
  | goes p m _ ih =>
    cases same
    exact goes _ _ m p.inFrame (ih rfl)

theorem Framing.latest (p : Framing s thread (x :: earlier)) (h : Reachable b s) : Reachable b x :=
  p.keeps (Reachable b) (fun _ r => h.move r.move) fun _ _ m _ reached => reached.move m

theorem Framing.owned (p : Framing s thread (x :: earlier)) (owned : s.world.channel.receiver = .platform) :
    x.world.channel.receiver = .platform := by
  refine p.keeps (fun x => x.world.channel.receiver = .platform) (fun x r => ?_) fun x y m inFrame => ?_
  · rw [r.round.1]
    exact owned
  · exact m.keeps_receiver inFrame

/-- At every moment a frame is in one of the stages. -/
theorem Framing.stage (p : Framing s thread (x :: earlier)) (h : Reachable b s)
    (owned : s.world.channel.receiver = .platform) : ∃ σ ∈ x.strands, FrameStage s thread x earlier σ := by
  generalize same : x :: earlier = moments at p
  induction p generalizing x earlier with
  | begins r =>
    cases same
    exact ⟨_, r.round.2, .round (List.nil_append _).symm (.begins r) r.serving⟩
  | @goes x y earlier p m inFrame ih =>
    cases same
    obtain ⟨φ, hφ, st⟩ := ih rfl
    have reached := p.latest h
    have owns := p.owned owned
    have alive : y.world.channel.receiver ≠ .gone := by simp [m.keeps_receiver p.inFrame owns]
    rcases m.steps_or_waits hφ (List.ne_nil_of_mem st.inFrame) with
      ⟨popped, below, others, n, act⟩ | ⟨σ, popped, below, others, n, act, other⟩
    · exact st.step act h reached owns alive inFrame
    · have waits := reached.other_waits owns alive act other ⟨.frameEnd, st.inFrame, rfl⟩
      have still : φ ∈ y.strands := (act.new φ).mpr (.inr other)
      exact ⟨φ, still, st.wait (reached.move m) m waits still⟩

theorem Framing.can_end (p : Framing s thread (x :: earlier)) (h : Reachable b s) :
    ∃ y later t, Framing s thread (y :: later) ∧ x :: earlier <:+ y :: later ∧ Move y t ∧
      .frameEnd ∉ t.frames := by
  obtain ⟨σ, hσ, inStack⟩ := List.mem_flatMap.mp p.inFrame
  -- The weight of the strand decreases with each of its steps.
  induction weight : (σ.on x.world).weight using Nat.strongRecOn generalizing x earlier σ with
  | ind k ih =>
    obtain ⟨w, strands⟩ := x
    obtain ⟨before, after, rfl⟩ := List.append_of_mem hσ
    have busy : (σ.on w).stack ≠ [] := List.ne_nil_of_mem inStack
    have lighter := (σ.on w).weight_step_lt busy
    have own : Turn w (framesOf (before ++ after)) σ _ := .step
    have turn := Move.turn before σ after own
    by_cases inFrame : .frameEnd ∈ framesOf (before ++ (σ.on w).step.strand :: after)
    · have goes := p.goes turn inFrame
      obtain ⟨popped, below, n, act, _⟩ := own.act before after
      have apart := (p.latest h).holder act ⟨.frameEnd, inStack, rfl⟩
      have still : .frameEnd ∈ (σ.on w).step.strand.stack := by
        refine (List.mem_append.mp ((frames_swap ..).mem_iff.mp inFrame)).resolve_right fun other => ?_
        cases apart _ other
      obtain ⟨y, later, t, frame, suffix, last, ended⟩ :=
        ih _ (weight ▸ lighter) goes _ (by simp) still rfl
      exact ⟨y, later, t, frame, (List.suffix_cons _ _).trans suffix, last, ended⟩
    · exact ⟨_, earlier, _, p, List.suffix_refl _, turn, inFrame⟩

theorem Framing.drawn (p : Framing s thread (x :: earlier)) (h : Reachable b s)
    (owned : s.world.channel.receiver = .platform) (m : Move x t) (ended : .frameEnd ∉ t.frames)
    (calm : ∀ σ ∈ x.strands, σ.inFrame = true → σ.fault = none) :
    x.Waits t ∧ ∃ between u z later y first calls a flag es,
      x :: earlier = between ++ u :: z :: later ++ y :: first ∧
      Drawn s thread y z u first later calls a flag es ∧ Served s x thread := by
  have reached := p.latest h
  have owns := p.owned owned
  have alive : t.world.channel.receiver ≠ .gone := by simp [m.keeps_receiver p.inFrame owns]
  obtain ⟨φ, hφ, st⟩ := p.stage h owned
  obtain ⟨σ, popped, below, others, n, act⟩ := m.act
  obtain rfl : φ = σ := by
    refine ((act.old φ).mp hφ).resolve_right fun other => ended ?_
    exact List.mem_flatMap.mpr ⟨φ, (act.new φ).mpr (.inr other), st.inFrame⟩
  have stack : φ.stack = [.frameEnd] := by
    have bottom : .frameEnd ∉ below := fun mem => ended (act.after.mem_iff.mpr (by simp [mem]))
    have top : .frameEnd ∈ popped := by simpa [act.stack, bottom] using st.inFrame
    obtain ⟨f, rfl⟩ := act.top.resolve_left fun ⟨empty, _⟩ => by simp [empty] at top
    obtain rfl := List.mem_singleton.mp top
    have hostStack := reached.hostStack φ hφ
    rw [act.stack] at hostStack ⊢
    exact congrArg (.frameEnd :: ·) hostStack
  refine ⟨reached.waits owns alive act (by simp [stack]), ?_⟩
  cases st with
  | round above =>
    have lengths := congrArg List.length (stack.symm.trans above)
    simp at lengths
  | ready above => simp [stack] at above
  | passing above =>
    have lengths := congrArg List.length (stack.symm.trans above)
    simp at lengths
  | drawn _ _ moments drawn served => exact ⟨_, _, _, _, _, _, _, _, _, _, moments, drawn, served⟩
  | failed raised =>
    have none := calm φ hφ (by simp [Strand.inFrame, stack])
    simp [none] at raised

/-- In a frame of a platform that owns the receiver, the runnables that waited for the main thread when it
began are started in order and finish before its pass, and no others are started. Calls pushed to the
graphics thread meanwhile are appended to the queue, and none of them starts before the pass; the pass runs
exactly the calls pushed by then, one after another, before it reads its target, reloads or draws. Runnables
dispatched in the frame wait, in order, when it has ended. This holds for every frame that ends without a
fault, and every frame can end. -/
theorem frame_runs_what_waited (h : Reachable b s) (owned : s.world.channel.receiver = .platform)
    (p : Framing s thread (x :: earlier)) :
    (∃ y later t, Framing s thread (y :: later) ∧ x :: earlier <:+ y :: later ∧ Move y t ∧
      .frameEnd ∉ t.frames) ∧
    ∀ t, Move x t → .frameEnd ∉ t.frames → (∀ σ ∈ x.strands, σ.inFrame = true → σ.fault = none) →
      ∃ between u z later y first calls a flag es,
        x :: earlier = between ++ u :: z :: later ++ y :: first ∧
        FrameCalls s thread (y :: first) calls ∧ Passing y thread (z :: later) ∧ Move z u ∧
        Served s y thread ∧
        startsOf .mainThread t.world.journal = startsOf .mainThread y.world.journal ∧
        y.world.waiting .graphics = s.world.waiting .graphics ++ calls.map Prod.snd ∧
        (∀ r ∈ y.world.waiting .graphics, ∀ pusher, .started r.ticket pusher ∉ y.world.journal) ∧
        y.world.host.map Host.adapter = some a ∧
        u.world.journal = .passEnded (some flag) :: (es ++ .passBegan thread :: y.world.journal) ∧
        (∀ k pusher, .submitted .graphics k ∈ y.world.journal → .started k pusher ∈ es →
          k ∈ (y.world.waiting .graphics).map Runnable.ticket) ∧
        (flag = false ∧ story (y.world.waiting .graphics) es
            = ran thread (y.world.waiting .graphics) ++ [.targetRead false] ∨
          ∃ current, FindsTarget (u :: z :: later) current ∧ story (y.world.waiting .graphics) es
            = ran thread (y.world.waiting .graphics) ++ .targetRead true :: (reloads (a.due current) ++
              .renderCalled :: if flag then [.rendered] else [])) ∧
        pushes .mainThread t.world.journal = pushes .mainThread s.world.journal
          ++ (t.world.waiting .mainThread).map Runnable.ticket := by
  refine ⟨p.can_end h, ?_⟩
  intro t m ended calm
  obtain ⟨waits, between, u, z, later, y, first, calls, a, flag, es, moments, drawn, served⟩ :=
    p.drawn h owned m ended calm
  have start := drawn.gathers.latest h
  have reached := drawn.pass.latest start
  obtain ⟨_, closed, queue⟩ := drawn.gathers.queue h
  obtain ⟨now, ending⟩ := drawn.ending
  have starts : startsOf .mainThread t.world.journal = startsOf .mainThread s.world.journal
      ++ (s.world.waiting .mainThread).map Runnable.ticket := (served.waits waits).starts
  refine ⟨between, u, z, later, y, first, calls, a, flag, es, moments, drawn.gathers, drawn.pass, drawn.last,
    drawn.served, starts.trans drawn.served.starts.symm, queue, fun r hr => start.unstarted_waiting hr,
    drawn.adapter, ending.journal, ?_, ?_, ?_⟩
  · intro k pusher pushed started
    have journal : u.world.journal
        = (.passEnded (some flag) :: (es ++ [.passBegan thread])) ++ y.world.journal := by
      rw [ending.journal]
      simp
    exact start.starts_what_waits (reached.move drawn.last) closed journal pushed
      (List.mem_cons_of_mem _ (List.mem_append_left _ started))
  · cases ending.outcome with
    | untargeted _ told => exact .inl ⟨rfl, told⟩
    | @drawn current _ _ _ _ read _ _ told =>
      rw [a.update_reload] at told
      exact .inr ⟨current, read, told⟩
  · obtain ⟨order, _, _⟩ := kept_rounds.inUse h.inUse
    obtain ⟨later, _, _⟩ := kept_rounds.inUse ((p.latest h).move m).inUse
    have still := m.keeps_receiver p.inFrame (p.owned owned)
    rw [← later.whole (by simp [still]), starts, order.whole (by simp [owned])]

theorem Framing.alone_runFor (k : Nat) {m : Machine} {earlier : List System}
    (p : Framing s thread (m.alone :: earlier)) (inFrame : ∀ i ≤ k, .frameEnd ∈ (m.runFor i).stack) :
    ∃ before, Framing s thread ((m.runFor k).alone :: before) := by
  induction k generalizing m earlier with
  | zero => exact ⟨earlier, p⟩
  | succ k ih =>
    unfold Machine.runFor at inFrame ⊢
    cases busy : m.stack with
    | nil => exact ⟨earlier, p⟩
    | cons f below =>
      have later (i : Nat) (bound : i ≤ k) : .frameEnd ∈ (m.step.runFor i).stack := by
        have next := inFrame (i + 1) (by omega)
        simpa only [busy] using next
      have there : .frameEnd ∈ m.step.alone.frames := List.mem_append_left _ (later 0 (Nat.zero_le k))
      exact ih (p.goes (.turn [] m.strand [] .step) there) later

end

def Machine.sampleFrame : Machine :=
  let framed := (Request.event .redraw).carryOut Machine.samplePlatform.world 0
  let queued := (Request.push none .done).carryOut framed.world 0
  let late : Script := .nest (.dispatch 0 none) .done .done
  (Request.dispatch none (.nest (.push 0 none) late .done)).carryOut queued.world 0

theorem reachable_sampleFrame : Reachable .standard Machine.sampleFrame.alone := by
  have fresh : Reachable .standard Machine.samplePlatform.alone := .built 1 bare_empty samplePlatform_built
  have framed := fresh.alone_carryOut rfl (.event .redraw) 0
  have queued := framed.alone_carryOut (by decide) (.push none .done) 0
  exact queued.alone_carryOut (by decide) (.dispatch none _) 0

def Machine.sampleRedraw : Machine := (Request.event .redraw).begin Machine.sampleFrame.world 0

theorem framing_sampleRedraw : ∃ earlier, Framing Machine.sampleFrame.alone 0
    ((Machine.sampleRedraw.runFor 17).alone :: earlier) := by
  have platform : (Machine.sampleFrame.world.host.bind Host.platform).isSome = true := by decide
  obtain ⟨_, found⟩ := Option.isSome_iff_exists.mp platform
  obtain ⟨_, hosted, owns⟩ := Option.bind_eq_some_iff.mp found
  have idle : Machine.sampleFrame.strand.stack = [] := by decide
  have begins : Framing Machine.sampleFrame.alone 0 [Machine.sampleRedraw.alone] :=
    .begins (.redraws [] Machine.sampleFrame.strand [] idle (by simp) hosted owns)
  exact begins.alone_runFor 17 (by decide)

theorem frame_runs_what_waited_sample :
    Reachable .standard Machine.sampleFrame.alone ∧
      Machine.sampleFrame.world.channel.receiver = .platform ∧
      ∃ (y : System) (first : List System) (calls : List (Bool × Runnable)),
        FrameCalls Machine.sampleFrame.alone 0 (y :: first) calls ∧
        startsOf .mainThread y.world.journal = [3] ∧
        y.world.waiting .graphics = Machine.sampleFrame.world.waiting .graphics ++ calls.map Prod.snd ∧
        pushes .mainThread (Machine.sampleRedraw.runFor 17).step.world.journal
          = pushes .mainThread Machine.sampleFrame.world.journal ++ [7] := by
  obtain ⟨earlier, p⟩ := framing_sampleRedraw
  have owned : Machine.sampleFrame.alone.world.channel.receiver = .platform := by decide
  obtain ⟨_, ends⟩ := frame_runs_what_waited reachable_sampleFrame owned p
  obtain ⟨_, _, _, _, y, first, calls, _, _, _, _, gathers, _, _, served, _, queue, _, _, _, _, _, waits⟩ :=
    ends (Machine.sampleRedraw.runFor 17).step.alone (.turn [] _ [] .step) (by decide) (by decide)
  have late : ((Machine.sampleRedraw.runFor 17).step.alone.world.waiting .mainThread).map Runnable.ticket
      = [7] := by decide
  rw [late] at waits
  have started : startsOf .mainThread Machine.sampleFrame.alone.world.journal
      ++ (Machine.sampleFrame.alone.world.waiting .mainThread).map Runnable.ticket = [3] := by decide
  exact ⟨reachable_sampleFrame, owned, y, first, calls, gathers, served.starts.trans started, queue, waits⟩

end FrameHost
