import FrameHost.Proofs.FramePushes
import FrameHost.Proofs.OwnedReceiver
import FrameHost.Proofs.RenderPass

/-!
The stages of a frame of a platform that owns the receiver, and the effect on them of a turn by another
strand and of a turn by the strand of the frame. The round starts exactly the runnables it found; then the
pass runs.
-/
namespace FrameHost

structure System.Waits (x y : System) : Prop where
  journal : ∃ es, y.world.journal = es ++ x.world.journal
  line : ∃ new, y.world.waiting .mainThread = x.world.waiting .mainThread ++ new
  starts : startsOf .mainThread y.world.journal = startsOf .mainThread x.world.journal

structure Serving (s x : System) (thread activation ran : Nat) : Prop where
  bound : ran ≤ (s.world.waiting .mainThread).length
  line : ∃ newer, x.world.waiting .mainThread = (s.world.waiting .mainThread).drop ran ++ newer
  starts : startsOf .mainThread x.world.journal = startsOf .mainThread s.world.journal
    ++ ((s.world.waiting .mainThread).take ran).map Runnable.ticket
  told : ∀ r ∈ (s.world.waiting .mainThread).take ran,
    .started r.ticket thread ∈ x.world.journal ∧ .took activation r.ticket ∈ x.world.journal

/-- Since `s` exactly the runnables that waited there were started, in order, and have finished. -/
structure Served (s x : System) (thread : Nat) : Prop where
  starts : startsOf .mainThread x.world.journal = startsOf .mainThread s.world.journal
    ++ (s.world.waiting .mainThread).map Runnable.ticket
  told : ∀ r ∈ s.world.waiting .mainThread,
    .started r.ticket thread ∈ x.world.journal ∧ .finished r.ticket ∈ x.world.journal

/-- A frame whose pass has returned: the round ended before `y`, the pass ran from there to `z`, and `u`
follows the pass. -/
structure Drawn (s : System) (thread : Nat) (y z u : System) (first later : List System)
    (calls : List (Bool × Runnable)) (a : Adapter) (flag : Bool) (es : List Event) : Prop where
  gathers : FrameCalls s thread (y :: first) calls
  served : Served s y thread
  pass : Passing y thread (z :: later)
  last : Move z u
  adapter : y.world.host.map Host.adapter = some a
  ending : ∃ now, Ending y thread a (FindsTarget (u :: z :: later)) z u (some flag) es now

/-- The progress of a frame that began after `s`, by the strand that runs it. -/
inductive FrameStage (s : System) (thread : Nat) (x : System) (earlier : List System) (σ : Strand) : Prop where
  | round {up : List Frame} {activation ran : Nat} {calls : List (Bool × Runnable)}
      (stack : σ.stack = up ++ [.round thread activation (s.world.waiting .mainThread).length ran,
        .enter thread, .frameEnd])
      (gathers : FrameCalls s thread (x :: earlier) calls) (serving : Serving s x thread activation ran)
  | ready {calls : List (Bool × Runnable)} (stack : σ.stack = [.enter thread, .frameEnd])
      (calm : σ.fault = none) (gathers : FrameCalls s thread (x :: earlier) calls) (served : Served s x thread)
  | passing {up : List Frame} {saved : Bool} {phase : Phase} {y : System} {first later : List System}
      {calls : List (Bool × Runnable)} (stack : σ.stack = up ++ [.pass thread saved phase, .frameEnd])
      (moments : earlier = later ++ y :: first) (gathers : FrameCalls s thread (y :: first) calls)
      (before : Served s y thread) (served : Served s x thread) (pass : Passing y thread (x :: later))
  | drawn {y z u : System} {first later between : List System} {calls : List (Bool × Runnable)} {a : Adapter}
      {flag : Bool} {es : List Event} (stack : σ.stack = [.frameEnd]) (calm : σ.fault = none)
      (moments : x :: earlier = between ++ u :: z :: later ++ y :: first)
      (drawn : Drawn s thread y z u first later calls a flag es) (served : Served s x thread)
  | failed (raised : σ.fault.isSome = true)
      (stack : σ.stack = [.enter thread, .frameEnd] ∨ σ.stack = [.frameEnd])

section
variable {s x y : System} {thread activation ran : Nat}

theorem Serving.waits (h : Serving s x thread activation ran) (k : x.Waits y) :
    Serving s y thread activation ran := by
  obtain ⟨es, journal⟩ := k.journal
  obtain ⟨newer, line⟩ := h.line
  obtain ⟨new, grown⟩ := k.line
  refine ⟨h.bound, ⟨newer ++ new, ?_⟩, ?_, ?_⟩
  · rw [grown, line, List.append_assoc]
  · rw [k.starts, h.starts]
  · intro r hr
    rw [journal]
    exact ⟨List.mem_append_right es (h.told r hr).1, List.mem_append_right es (h.told r hr).2⟩

theorem Served.waits (h : Served s x thread) (k : x.Waits y) : Served s y thread := by
  obtain ⟨es, journal⟩ := k.journal
  refine ⟨by rw [k.starts, h.starts], ?_⟩
  intro r hr
  rw [journal]
  exact ⟨List.mem_append_right es (h.told r hr).1, List.mem_append_right es (h.told r hr).2⟩

theorem System.Redraws.serving (r : s.Redraws thread x) : Serving s x thread s.world.tickets 0 := by
  obtain ⟨world, _⟩ := r.round
  have journal : x.world.journal = [.began .mainThread s.world.tickets
      ((s.world.waiting .mainThread).map Runnable.ticket)] ++ s.world.journal := by
    rw [world]
    rfl
  refine ⟨Nat.zero_le _, ⟨[], ?_⟩, ?_, by simp⟩
  · rw [world, List.append_nil]
    rfl
  · rw [journal, startsOf_append (by simp [Event.pushed?])]
    rfl

theorem Serving.serves (h : Serving s x thread activation ran)
    (short : ran < (s.world.waiting .mainThread).length) {r : Runnable}
    (line : x.world.waiting .mainThread = r :: y.world.waiting .mainThread)
    (starts : startsOf .mainThread y.world.journal = startsOf .mainThread x.world.journal ++ [r.ticket])
    (told : .started r.ticket thread ∈ y.world.journal ∧ .took activation r.ticket ∈ y.world.journal)
    (journal : ∃ es, y.world.journal = es ++ x.world.journal) :
    Serving s y thread activation (ran + 1) := by
  obtain ⟨newer, waits⟩ := h.line
  obtain ⟨es, journal⟩ := journal
  rw [List.drop_eq_getElem_cons short, line] at waits
  obtain ⟨next, rest⟩ := List.cons.inj waits
  have taken : (s.world.waiting .mainThread).take (ran + 1)
      = (s.world.waiting .mainThread).take ran ++ [r] := by
    rw [next, List.take_append_getElem short]
  refine ⟨short, ⟨newer, rest⟩, ?_, ?_⟩
  · rw [starts, h.starts, taken, List.map_append, List.append_assoc]
    rfl
  · intro q hq
    rw [taken] at hq
    rcases List.mem_append.mp hq with old | new
    · rw [journal]
      exact ⟨List.mem_append_right es (h.told q old).1, List.mem_append_right es (h.told q old).2⟩
    · rw [List.mem_singleton.mp new]
      exact told

theorem Serving.served (h : Serving s x thread activation ran)
    (all : ran = (s.world.waiting .mainThread).length) (settled : Settled x.world.journal activation) :
    Served s x thread := by
  have told := h.told
  have starts := h.starts
  rw [all, List.take_length] at told starts
  exact ⟨starts, fun r hr => ⟨(told r hr).1, settled r.ticket (told r hr).2⟩⟩

end

section
variable {b : AdapterOptions} {s x y : System} {thread : Nat} {σ φ : Strand} {popped below : List Frame}
    {others : List Strand} {n : Machine} {earlier : List System}

theorem Act.on_top {f : Frame} {rest : List Frame} (act : Act x y σ popped below others n)
    (stack : σ.stack = f :: rest) : popped = [f] ∧ below = rest := by
  have split := act.stack
  rcases act.top with ⟨rfl, rfl⟩ | ⟨g, rfl⟩
  · simp [stack] at split
  · rw [stack] at split
    obtain ⟨rfl, rfl⟩ := List.cons.inj split
    exact ⟨rfl, rfl⟩

theorem Act.loose {f : Frame} {rest : List Frame} (act : Act x y σ popped below others n)
    (stack : σ.stack = f :: rest) (passless : f.isPass = false) : ∀ g ∈ n.stack, g.holdsHost = false := by
  obtain ⟨rfl, rfl⟩ := act.on_top stack
  exact act.effect.hostFrameMove.loose passless

/-- Only the step of a round starts a runnable of the channel. -/
theorem Reachable.waits (h : Reachable b x) (owned : x.world.channel.receiver = .platform)
    (alive : y.world.channel.receiver ≠ .gone) (act : Act x y σ popped below others n)
    (unlike : ∀ t a queued ran, σ.stack ≠ [.round t a queued ran, .enter t, .frameEnd]) : x.Waits y := by
  obtain ⟨es, journal⟩ := act.effect.ledgerMove.journal
  have grown : ∃ es, y.world.journal = es ++ x.world.journal := ⟨es, act.world ▸ journal⟩
  cases h.inUse.line act alive with
  | waits new line starts => exact ⟨grown, ⟨new, act.world ▸ line⟩, act.world ▸ starts⟩
  | serves t a queued ran _ _ top =>
    have rounded := h.rounded owned σ act.mem
    rw [act.stack, top] at rounded
    obtain rfl : below = [.enter t, .frameEnd] := rounded
    exact absurd (act.stack.trans (congrArg (· ++ [.enter t, .frameEnd]) top)) (unlike t a queued ran)

theorem Reachable.other_waits (h : Reachable b x) (owned : x.world.channel.receiver = .platform)
    (alive : y.world.channel.receiver ≠ .gone) (act : Act x y σ popped below others n) (hφ : φ ∈ others)
    (has : φ.HasHost) : x.Waits y := by
  have apart := h.bystander act hφ has
  refine h.waits owned alive act fun t a queued ran stack => ?_
  cases apart .frameEnd (by simp [stack])

theorem Reachable.last_turn (h : Reachable b x) (act : Act x y σ popped below others n)
    (stack : σ.stack = [.frameEnd]) : .frameEnd ∉ y.frames := by
  have loose := act.loose stack rfl
  obtain ⟨rfl, rfl⟩ := act.on_top stack
  have apart := h.holder act ⟨.frameEnd, by simp [stack], rfl⟩
  intro mem
  rcases List.mem_append.mp (act.after.mem_iff.mp mem) with new | rest
  · cases loose _ new
  · cases apart _ rest

theorem FrameStage.inFrame (st : FrameStage s thread x earlier σ) : .frameEnd ∈ σ.stack := by
  cases st with
  | round stack => simp [stack]
  | ready stack => simp [stack]
  | passing stack => simp [stack]
  | drawn stack => simp [stack]
  | failed _ stack => rcases stack with stack | stack <;> simp [stack]

/-- A turn of another strand preserves the stage of a frame. -/
theorem FrameStage.wait (st : FrameStage s thread x earlier φ) (after : Reachable b y) (m : Move x y)
    (waits : x.Waits y) (mem : φ ∈ y.strands) : FrameStage s thread y (x :: earlier) φ := by
  have there {f : Frame} (hf : f ∈ φ.stack) : f ∈ y.frames := List.mem_flatMap.mpr ⟨φ, mem, hf⟩
  have inFrame := there st.inFrame
  obtain ⟨push, hands⟩ := m.movePushing
  cases st with
  | round stack gathers serving =>
    have ahead : .enter thread ∈ y.frames := there (by simp [stack])
    exact .round stack (gathers.goes hands inFrame (after.closed_of_enter ahead)) (serving.waits waits)
  | ready stack calm gathers served =>
    have ahead : .enter thread ∈ y.frames := there (by simp [stack])
    exact .ready stack calm (gathers.goes hands inFrame (after.closed_of_enter ahead))
      (served.waits waits)
  | @passing up saved phase y' first later calls stack moments gathers before served pass =>
    have inside : y.InPass thread := ⟨saved, phase, there (by simp [stack])⟩
    exact .passing stack (by rw [moments]; rfl) gathers before (served.waits waits)
      (pass.goes m ((after.inPass_iff thread).mp inside))
  | @drawn y' z u first later between _ _ _ _ stack calm moments drawn served =>
    have more : y :: x :: earlier = y :: between ++ u :: z :: later ++ y' :: first := by
      rw [moments]
      rfl
    exact .drawn stack calm more drawn (served.waits waits)
  | failed raised stack => exact .failed raised stack

end

structure Stepping (x y : System) (σ : Strand) (popped below : List Frame) (others : List Strand)
    (n : Machine) : Prop extends Act x y σ popped below others n where
  move : Move x y
  step : (σ.on x.world).step = { n with stack := n.stack ++ below }

section
variable {b : AdapterOptions} {s x y : System} {thread : Nat} {σ : Strand} {popped below rest : List Frame}
    {others : List Strand} {n : Machine} {earlier : List System} {f : Frame}

theorem Stepping.new_mem (act : Stepping x y σ popped below others n) :
    ⟨n.fault, n.answer, n.stack ++ below⟩ ∈ y.strands := (act.new _).mpr (.inl rfl)

theorem Stepping.eq_of_step {m : Machine} (act : Stepping x y σ popped below others n)
    (same : (σ.on x.world).step = { m with stack := m.stack ++ below }) : n = m := by
  have eq := act.step.symm.trans same
  cases n
  cases m
  simpa using eq

theorem Stepping.advances (act : Stepping x y σ popped below others n) (stack : σ.stack = f :: rest)
    (calm : σ.fault = none) : n = f.advance x.world σ.answer := by
  obtain ⟨_, rfl⟩ := act.on_top stack
  refine act.eq_of_step ?_
  simp only [Strand.on, Machine.step, stack, calm]

theorem Stepping.unwinds {raised : Fault} (act : Stepping x y σ popped below others n)
    (stack : σ.stack = f :: rest) (unwinding : σ.fault = some raised) : n = f.unwind x.world raised := by
  obtain ⟨_, rfl⟩ := act.on_top stack
  refine act.eq_of_step ?_
  simp only [Strand.on, Machine.step, stack, unwinding]

theorem Move.steps_or_waits (m : Move x y) (mem : σ ∈ x.strands) (busy : σ.stack ≠ []) :
    (∃ popped below others n, Stepping x y σ popped below others n) ∨
      ∃ τ popped below others n, Act x y τ popped below others n ∧ σ ∈ others := by
  have move := m
  cases m with
  | @turn w m before τ late turn =>
    have place : σ = τ ∨ σ ∈ before ++ late := by simpa [or_left_comm] using mem
    obtain ⟨popped, below, n, act, eq⟩ := turn.act before late
    rcases place with rfl | other
    · cases turn with
      | step => exact .inl ⟨popped, below, _, n, act, move, eq⟩
      | begin r thread idle => exact absurd idle busy
    · exact .inr ⟨τ, popped, below, _, n, act, other⟩

theorem FrameStage.fails (act : Stepping x y σ popped below others n) (stack : σ.stack = f :: rest)
    (raised : σ.fault.isSome = true) (lets : ∀ w fault, (f.unwind w fault).fault = some fault)
    (left : rest = [.enter thread, .frameEnd] ∨ rest = [.frameEnd]) :
    ∃ τ ∈ y.strands, FrameStage s thread y (x :: earlier) τ := by
  obtain ⟨fault, unwinding⟩ := Option.isSome_iff_exists.mp raised
  have unwound := act.unwinds stack unwinding
  obtain ⟨_, rfl⟩ := act.on_top stack
  have gone : n.fault = some fault ∧ n.stack = [] := by
    rw [unwound]
    exact ⟨lets _ _, f.unwind_stack _ _⟩
  exact ⟨_, act.new_mem, .failed (by simp [gone.1]) (by simpa [gone.2] using left)⟩

theorem FrameStage.above_round {up : List Frame} {activation ran : Nat} {calls : List (Bool × Runnable)}
    (act : Stepping x y σ popped below others n) (h : Reachable b x)
    (owned : x.world.channel.receiver = .platform) (alive : y.world.channel.receiver ≠ .gone)
    (inFrame : .frameEnd ∈ y.frames)
    (stack : σ.stack = f :: up ++ [.round thread activation (s.world.waiting .mainThread).length ran,
      .enter thread, .frameEnd])
    (gathers : FrameCalls s thread (x :: earlier) calls) (serving : Serving s x thread activation ran) :
    ∃ τ ∈ y.strands, FrameStage s thread y (x :: earlier) τ := by
  have waits : x.Waits y := by
    refine h.waits owned alive act.toAct fun t a queued ran' other => ?_
    have lengths := congrArg List.length (stack.symm.trans other)
    simp at lengths
  obtain ⟨rfl, rfl⟩ := act.on_top stack
  have ahead : .enter thread ∈ y.frames := act.after.mem_iff.mpr (by simp)
  obtain ⟨push, hands⟩ := act.move.movePushing
  have closed := (h.move act.move).closed_of_enter ahead
  exact ⟨_, act.new_mem, .round (List.append_assoc n.stack up _).symm (gathers.goes hands inFrame closed)
    (serving.waits waits)⟩

/-- The round starts the next runnable it found, or returns when all of them have finished. -/
theorem FrameStage.on_round {activation ran : Nat} {calls : List (Bool × Runnable)}
    (act : Stepping x y σ popped below others n) (h : Reachable b x)
    (alive : y.world.channel.receiver ≠ .gone) (inFrame : .frameEnd ∈ y.frames)
    (stack : σ.stack = [.round thread activation (s.world.waiting .mainThread).length ran,
      .enter thread, .frameEnd])
    (gathers : FrameCalls s thread (x :: earlier) calls) (serving : Serving s x thread activation ran) :
    ∃ τ ∈ y.strands, FrameStage s thread y (x :: earlier) τ := by
  cases fault : σ.fault with
  | some raised => exact fails act stack (by simp [fault]) (fun _ _ => rfl) (.inl rfl)
  | none =>
    obtain ⟨rfl, rfl⟩ := act.on_top stack
    have ahead : .enter thread ∈ y.frames := act.after.mem_iff.mpr (by simp)
    have closed := (h.move act.move).closed_of_enter ahead
    obtain ⟨push, hands⟩ := act.move.movePushing
    have gathered := gathers.goes hands inFrame closed
    obtain ⟨es, journal⟩ := act.effect.ledgerMove.journal
    have grown : ∃ es, y.world.journal = es ++ x.world.journal := ⟨es, act.world ▸ journal⟩
    cases h.inUse.line act.toAct alive with
    | serves t a queued ran' r well top short line starts told laid =>
      obtain ⟨rfl, rfl, rfl, rfl⟩ : thread = t ∧ activation = a ∧
          (s.world.waiting .mainThread).length = queued ∧ ran = ran' := by simpa using top
      rw [← act.world] at line starts told
      have stacked : n.stack ++ [.enter thread, .frameEnd] = [.script thread r.body, .running r.ticket] ++
          [.round thread activation (s.world.waiting .mainThread).length (ran + 1), .enter thread,
            .frameEnd] := by
        rw [laid]
        rfl
      exact ⟨_, act.new_mem, .round stacked gathered (serving.serves short line starts told grown)⟩
    | waits new line starts =>
      rw [← act.world] at line starts
      have advanced : n = x.world.nextMain thread activation _ ran := act.advances stack fault
      -- A round that goes on takes the head of the line, so it is shorter after it.
      have all : ran = (s.world.waiting .mainThread).length := by
        refine Nat.le_antisymm serving.bound (Nat.not_lt.mp fun short => ?_)
        obtain ⟨newer, waiting⟩ := serving.line
        rw [List.drop_eq_getElem_cons short, List.cons_append] at waiting
        have channel : x.world.channel.waiting = _ := waiting
        rw [act.world, advanced, waiting] at line
        simp only [World.nextMain, short, decide_true, channel] at line
        have lengths := congrArg List.length line
        simp [World.waiting, World.start, Machine.proceed, World.record] at lengths
        omega
      have returned : n.fault = none ∧ n.stack = [] := by
        rw [advanced, World.nextMain, all]
        simp [Machine.answering]
      have settled : Settled x.world.journal activation :=
        (h.inUse.activationsOrdered.strands σ act.mem).settled fault _ _ activation stack rfl
      have served : Served s x thread := serving.served all settled
      exact ⟨_, act.new_mem, .ready (by simp [returned.2]) returned.1 gathered
        (served.waits ⟨grown, ⟨new, line⟩, starts⟩)⟩

theorem FrameStage.on_enter {calls : List (Bool × Runnable)}
    (act : Stepping x y σ popped below others n) (h : Reachable b x)
    (owned : x.world.channel.receiver = .platform) (alive : y.world.channel.receiver ≠ .gone)
    (stack : σ.stack = [.enter thread, .frameEnd])
    (calm : σ.fault = none) (gathers : FrameCalls s thread (x :: earlier) calls) (served : Served s x thread) :
    ∃ τ ∈ y.strands, FrameStage s thread y (x :: earlier) τ := by
  have waits := h.waits owned alive act.toAct (by simp [stack])
  obtain ⟨rfl, rfl⟩ := act.on_top stack
  have ahead : .enter thread ∈ x.frames := act.before.mem_iff.mpr (by simp)
  have hosted := h.gated.hosted (.enter thread) ahead rfl
  obtain ⟨g, shared⟩ := Option.isSome_iff_exists.mp (h.gated.shared hosted)
  have advanced : n = x.world.enterPass thread := act.advances stack calm
  rcases World.enterPass_cases shared thread with ⟨opened, f, saved, laid⟩ | refused
  · rw [← advanced, ← act.world] at opened
    have pass : Passing x thread [y] := .begins act.move (h.closed_of_enter ahead) opened
    have stacked : n.stack ++ [.frameEnd] = [f] ++ [.pass thread saved .target, .frameEnd] := by
      rw [advanced, laid]
      rfl
    exact ⟨_, act.new_mem, .passing stacked (List.nil_append _).symm gathers served (served.waits waits) pass⟩
  · have left : n.fault.isSome = true ∧ n.stack = [] := by rw [advanced, refused]; exact ⟨rfl, rfl⟩
    exact ⟨_, act.new_mem, .failed left.1 (.inr (by simp [left.2]))⟩

theorem FrameStage.in_pass {up : List Frame} {saved : Bool} {phase : Phase} {y₀ : System}
    {first later : List System} {calls : List (Bool × Runnable)}
    (act : Stepping x y σ popped below others n) (h₀ : Reachable b s) (h : Reachable b x)
    (owned : x.world.channel.receiver = .platform) (alive : y.world.channel.receiver ≠ .gone)
    (stack : σ.stack = up ++ [.pass thread saved phase, .frameEnd]) (moments : earlier = later ++ y₀ :: first)
    (gathers : FrameCalls s thread (y₀ :: first) calls) (before : Served s y₀ thread)
    (served : Served s x thread) (pass : Passing y₀ thread (x :: later)) :
    ∃ τ ∈ y.strands, FrameStage s thread y (x :: earlier) τ := by
  have waits : x.Waits y := by
    refine h.waits owned alive act.toAct fun t a queued ran other => ?_
    have mem : .pass thread saved phase ∈ σ.stack := by simp [stack]
    simp [other] at mem
  have has : σ.HasHost := ⟨.frameEnd, by simp [stack], rfl⟩
  obtain ⟨a, es, now, adapter, moment⟩ := pass.moment (gathers.latest h₀)
  rcases moment.next h act.move with ⟨_, _, next⟩ | ⟨result, es, now, ending⟩
  · have stacked : ∃ up saved phase, n.stack ++ below = up ++ [.pass thread saved phase, .frameEnd] := by
      cases up with
      | cons f up =>
        obtain ⟨rfl, rfl⟩ := act.on_top stack
        exact ⟨n.stack ++ up, saved, phase, (List.append_assoc ..).symm⟩
      | nil =>
        obtain ⟨rfl, rfl⟩ := act.on_top stack
        obtain ⟨saved, phase, inside⟩ := ((h.move act.move).inPass_iff thread).mpr next.openPass
        have mine : .pass thread saved phase ∈ n.stack := by
          refine (List.mem_append.mp (act.after.mem_iff.mp inside)).resolve_right fun rest => ?_
          rcases List.mem_append.mp rest with own | other
          · simp at own
          · cases h.holder act.toAct has _ other
        obtain ⟨front, laid⟩ := act.effect.hostFrameMove.last_pass mine
        exact ⟨front, saved, phase, by rw [laid, List.append_assoc]; rfl⟩
    obtain ⟨up, saved, phase, stacked⟩ := stacked
    have split : x :: earlier = x :: later ++ y₀ :: first := by rw [moments]; rfl
    exact ⟨_, act.new_mem, .passing stacked split gathers before (served.waits waits)
      (pass.goes act.move next.openPass)⟩
  · obtain ⟨ρ, hρ, saved', phase', under, top, left⟩ := ending.leaves
    obtain rfl : ρ = σ := h.one_holder hρ act.mem ⟨_, by rw [top]; exact List.mem_cons_self, rfl⟩ has
    -- Below the pass there is only the end of the frame.
    have stacked : under = [] ∨ under = [.frameEnd] := by
      have hostStack := h.hostStack ρ act.mem
      rw [top] at hostStack
      exact hostStack
    obtain rfl : under = [.frameEnd] := by
      refine stacked.resolve_left fun bare => ?_
      have lengths := congrArg List.length (top.symm.trans stack)
      simp [bare] at lengths
    cases result with
    | none => exact fails act top left (fun _ _ => rfl) (.inr rfl)
    | some flag =>
      have split : y :: x :: earlier = [] ++ y :: x :: later ++ y₀ :: first := by rw [moments]; rfl
      exact ⟨_, left.2, .drawn rfl rfl split ⟨gathers, before, pass, act.move, adapter, now, ending⟩
        (served.waits waits)⟩

/-- A turn of the strand of a frame advances the frame or ends it. -/
theorem FrameStage.step (st : FrameStage s thread x earlier σ) (act : Stepping x y σ popped below others n)
    (h₀ : Reachable b s) (h : Reachable b x) (owned : x.world.channel.receiver = .platform)
    (alive : y.world.channel.receiver ≠ .gone) (inFrame : .frameEnd ∈ y.frames) :
    ∃ τ ∈ y.strands, FrameStage s thread y (x :: earlier) τ := by
  cases st with
  | @round up _ _ _ stack gathers serving =>
    cases up with
    | nil => exact on_round act h alive inFrame stack gathers serving
    | cons f up => exact above_round act h owned alive inFrame stack gathers serving
  | ready stack calm gathers served => exact on_enter act h owned alive stack calm gathers served
  | passing stack moments gathers before served pass =>
    exact in_pass act h₀ h owned alive stack moments gathers before served pass
  | drawn stack => exact absurd inFrame (h.last_turn act.toAct stack)
  | failed raised stack =>
    rcases stack with stack | stack
    · exact fails act stack raised (fun _ _ => rfl) (.inr rfl)
    · exact absurd inFrame (h.last_turn act.toAct stack)

end

end FrameHost
