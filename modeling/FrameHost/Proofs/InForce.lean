import FrameHost.Proofs.AdapterMove
import FrameHost.Proofs.Debounce

/-!
The settings in force as a function of the journal: those of the last reload that returned. In every
reachable system the adapter holds these settings, whatever faults abort its passes.
-/
namespace FrameHost

def phaseOf : List Event → Phase
  | [] => .target
  | .reloaded settings _ :: _ => .loaded settings
  | .renderCalled :: _ | .targetRead true :: _ => .presenting
  | .passBegan _ :: _ | .passEnded _ :: _ => .target
  | _ :: older => phaseOf older

def Phase.loading? : Phase → Option Settings
  | loaded settings => some settings
  | _ => none

/-- The settings of the last reload that returned, or the settings of the builder. -/
def inForce (chosen : Settings) : List Event → Settings
  | [] => chosen
  | .renderCalled :: older => (phaseOf older).loading?.getD (inForce chosen older)
  | _ :: older => inForce chosen older

def Event.isPhaseChange : Event → Bool
  | passBegan _ | passEnded _ | targetRead true | reloaded .. | renderCalled => true
  | _ => false

theorem Event.isPhaseChange_of_isChore {e : Event} (h : e.isChore = true) : e.isPhaseChange = false := by
  cases e <;> first | rfl | cases h

theorem phaseOf_cons {e : Event} (h : e.isPhaseChange = false) (older : List Event) :
    phaseOf (e :: older) = phaseOf older := by
  cases e with
  | targetRead present => cases present <;> first | rfl | cases h
  | _ => first | rfl | cases h

theorem inForce_cons {e : Event} (h : e.isPhaseChange = false) (chosen : Settings) (older : List Event) :
    inForce chosen (e :: older) = inForce chosen older := by
  cases e <;> first | rfl | cases h

theorem phaseOf_append {es : List Event} (h : ∀ e ∈ es, e.isPhaseChange = false) (older : List Event) :
    phaseOf (es ++ older) = phaseOf older := by
  induction es with
  | nil => rfl
  | cons e es ih =>
    rw [List.cons_append, phaseOf_cons (h e List.mem_cons_self)]
    exact ih fun x hx => h x (List.mem_cons_of_mem e hx)

theorem inForce_append {es : List Event} (h : ∀ e ∈ es, e.isPhaseChange = false) (chosen : Settings)
    (older : List Event) : inForce chosen (es ++ older) = inForce chosen older := by
  induction es with
  | nil => rfl
  | cons e es ih =>
    rw [List.cons_append, inForce_cons (h e List.mem_cons_self)]
    exact ih fun x hx => h x (List.mem_cons_of_mem e hx)

/-- The adapter holds the settings in force, and the frame of a pass has the phase that the journal
determines. -/
structure Phased (chosen : Settings) (w : World) (fs : List Frame) : Prop where
  settings : ∀ a, w.adapter? = some a → a.settings = inForce chosen w.journal
  phase : ∀ thread saved phase, .pass thread saved phase ∈ fs → phaseOf w.journal = phase
  idle : openPass w.journal = none → phaseOf w.journal = .target

theorem Phased.perm {chosen : Settings} {w : World} {fs gs : List Frame} (p : fs.Perm gs)
    (h : Phased chosen w fs) : Phased chosen w gs :=
  ⟨h.settings, fun thread saved phase mem => h.phase thread saved phase (p.mem_iff.mpr mem), h.idle⟩

theorem chores_keep {es : List Event} (chores : ∀ e ∈ es, e.isChore = true) (j : List Event) :
    phaseOf (es ++ j) = phaseOf j ∧ openPass (es ++ j) = openPass j ∧
      ∀ chosen, inForce chosen (es ++ j) = inForce chosen j := by
  have still : ∀ e ∈ es, e.isPhaseChange = false := fun e he => Event.isPhaseChange_of_isChore (chores e he)
  have plain : ∀ e ∈ es, e.isBracket = false := fun e he => Event.isBracket_of_isChore (chores e he)
  exact ⟨phaseOf_append still _, openPass_append plain _, fun chosen => inForce_append still chosen _⟩

theorem phaseKept {w v : World} (h : w.Adds Event.isChore v) :
    phaseOf v.journal = phaseOf w.journal ∧ openPass v.journal = openPass w.journal ∧
      ∀ chosen, inForce chosen v.journal = inForce chosen w.journal := by
  obtain ⟨es, journal, chores⟩ := h
  rw [journal]
  exact chores_keep chores w.journal

theorem Adapter.update_settings (a : Adapter) (current : Resolution) :
    (a.update current).2.settings = a.settings := by
  unfold update
  split <;> rfl

section
variable {chosen : Settings} {w v : World} {others popped fs : List Frame} {fault : Option Fault}
  {n : Machine} {f : Frame} {thread : Nat} {saved : Bool} {phase : Phase}

theorem Phased.keeps {gs : List Frame} (h : Phased chosen w fs)
    (settings : ∀ a, v.adapter? = some a → a.settings = inForce chosen v.journal)
    (phase : phaseOf v.journal = phaseOf w.journal) (bracket : openPass v.journal = openPass w.journal)
    (old : ∀ t s p, .pass t s p ∈ gs → .pass t s p ∈ fs) : Phased chosen v gs := by
  refine ⟨settings, ?_, ?_⟩
  · intro t s p mem
    exact phase.trans (h.phase t s p (old t s p mem))
  · intro closed
    exact phase.trans (h.idle (bracket ▸ closed))

theorem phase_of_alone {g : Frame} (alone : others.countP Frame.isPass = 0) (above : g.isPass = false)
    {t : Nat} {s : Bool} {p : Phase}
    (mem : .pass t s p ∈ [g, .pass thread saved phase] ++ others) : p = phase := by
  have passless : Frame.pass t s p ∉ others := fun hp => absurd rfl (List.countP_eq_zero.mp alone _ hp)
  simp only [List.cons_append, List.nil_append, List.mem_cons, passless, or_false] at mem
  rcases mem with rfl | mem
  · cases above
  · cases mem
    rfl

theorem Phased.goes {a : Adapter} {body : Script} (alone : others.countP Frame.isPass = 0)
    (now : v.adapter? = some a) (settings : a.settings = inForce chosen v.journal)
    (here : phaseOf v.journal = phase) (opened : openPass v.journal = some thread) :
    Phased chosen v ([.script thread body, .pass thread saved phase] ++ others) := by
  refine ⟨?_, ?_, ?_⟩
  · intro a' now'
    cases now.symm.trans now'
    exact settings
  · intro t s p mem
    rw [here, phase_of_alone alone rfl mem]
  · intro closed
    simp [opened] at closed

theorem Phased.ends (alone : others.countP Frame.isPass = 0) (h : Phased chosen w fs)
    (adapter : v.adapter? = w.adapter?) (same : inForce chosen v.journal = inForce chosen w.journal)
    (ended : phaseOf v.journal = .target) : Phased chosen v others := by
  refine ⟨?_, ?_, fun _ => ended⟩
  · intro a now
    rw [same]
    exact h.settings a (adapter ▸ now)
  · intro t s p mem
    exact absurd rfl (List.countP_eq_zero.mp alone _ mem)

theorem AdapterMove.phased (m : AdapterMove w others fault popped n) (g : Gated w (popped ++ others))
    (h : Phased chosen w (popped ++ others)) : Phased chosen n.world (n.stack ++ others) := by
  have opened {t : Nat} {s : Bool} {p : Phase} (mem : .pass t s p ∈ popped ++ others) :
      openPass w.journal = some t := ((g.passes t s).mp (mem_guards.mpr ⟨p, mem⟩)).1
  cases m with
  | aside chores adapter unguarded =>
    obtain ⟨phase, bracket, settings⟩ := phaseKept chores
    refine h.keeps ?_ phase bracket ?_
    · intro a now
      rw [settings]
      exact h.settings a (adapter ▸ now)
    · intro t s p mem
      rcases List.mem_append.mp mem with laid | other
      · have guarded := mem_guards.mpr ⟨p, laid⟩
        simp [unguarded] at guarded
      · exact List.mem_append_right _ other
  | departs chores gone empty free =>
    obtain ⟨phase, bracket, _⟩ := phaseKept chores
    rw [empty]
    exact h.keeps (by simp [gone]) phase bracket fun _ _ _ mem => mem
  | @asks _ _ v a r before after was now empty free =>
    obtain ⟨phase, bracket, settings⟩ := phaseKept before
    obtain ⟨phase', bracket', settings'⟩ := phaseKept after
    obtain ⟨resize, now⟩ := now
    rw [empty]
    refine h.keeps ?_ (phase'.trans phase) (bracket'.trans bracket) fun _ _ _ mem => mem
    intro a' now'
    cases now.symm.trans now'
    rw [settings']
    exact (h.settings a was).trans (settings chosen).symm
  | @begins _ _ thread activation saved calls chores adapter laid =>
    obtain ⟨phase, bracket, settings⟩ := phaseKept chores
    have alone := g.alone rfl
    rw [laid]
    refine ⟨?_, ?_, ?_⟩
    · intro a now
      rw [settings]
      exact h.settings a (adapter ▸ now)
    · intro t s p mem
      rw [phase_of_alone alone rfl mem]
      exact phase
    · intro closed
      simp [bracket, World.record, openPass] at closed
  | misses journal adapter empty =>
    rw [empty]
    exact .ends (g.alone rfl) h adapter (by rw [journal]; rfl) (by rw [journal]; rfl)
  | @draws _ thread saved a logs body chores was idle journal now laid =>
    obtain ⟨phase, bracket, settings⟩ := chores_keep chores (.targetRead true :: w.journal)
    rw [laid]
    refine .goes (g.alone rfl) now ?_ (by rw [journal]; rfl) ?_
    · rw [journal, Adapter.update_settings, h.settings a was, inForce, phase, settings]
      rfl
    · rw [journal]
      exact bracket.trans (opened List.mem_cons_self)
  | @loads _ thread saved a logs r body chores was due journal now laid =>
    obtain ⟨_, bracket, settings⟩ := chores_keep chores (.targetRead true :: w.journal)
    rw [laid]
    refine .goes (g.alone rfl) now ?_ (by rw [journal]; rfl) ?_
    · rw [journal, Adapter.update_settings, h.settings a was]
      exact (settings chosen).symm
    · rw [journal]
      exact bracket.trans (opened List.mem_cons_self)
  | @returns _ thread saved a settings body was journal now laid =>
    have here := h.phase thread saved (.loaded settings) List.mem_cons_self
    rw [laid]
    refine .goes (g.alone rfl) now ?_ (by rw [journal]; rfl) ?_
    · rw [journal, inForce, here]
      rfl
    · rw [journal]
      exact opened List.mem_cons_self
  | presents told journal adapter empty =>
    rw [empty]
    refine .ends (g.alone rfl) h adapter ?_ (by rw [journal]; rfl)
    rw [journal]
    rcases told with rfl | ⟨error, rfl⟩ <;> rfl
  | aborts journal adapter empty =>
    rw [empty]
    exact .ends (g.alone rfl) h adapter (by rw [journal]; rfl) (by rw [journal]; rfl)

end

theorem World.Fresh.phased {b : AdapterOptions} {w : World} (fresh : w.Fresh b) :
    Phased b.settings w [] := by
  have still : ∀ e ∈ w.journal, e.isPhaseChange = false := fun e he =>
    Event.isPhaseChange_of_isChore (Event.isChore_of_isRemark (fresh.journal e he))
  have phase : phaseOf w.journal = .target := by simpa [phaseOf] using phaseOf_append still []
  have chosen : inForce b.settings w.journal = b.settings := by
    simpa [inForce] using inForce_append still b.settings []
  refine ⟨?_, by simp, fun _ => phase⟩
  intro a now
  cases fresh.adapter.symm.trans now
  exact chosen.symm

theorem Reachable.phased {b : AdapterOptions} {s : System} (h : Reachable b s) :
    Phased b.settings s.world s.frames := by
  induction h with
  | built strands bare h =>
    simp only [System.frames, framesOf_idle]
    exact (World.fresh_build bare h).phased
  | @move s t reached m ih =>
    obtain ⟨σ, popped, below, others, n, act⟩ := m.act
    have gated := reached.gated.perm act.before
    rw [act.world]
    exact ((act.effect.adapterMove gated).phased gated (ih.perm act.before)).perm act.after.symm

/-- The effect of a pass on the adapter: none until it reads its target, then the update of the frame; the
settings of a reload are in force once the pass draws. -/
inductive PassEffect (calls : List Runnable) (thread : Nat) (a : Adapter) (found : Resolution → Prop)
    (es : List Event) : Option Bool → Adapter → Prop where
  | kept {result : Option Bool} (unread : .targetRead true ∉ es)
      (unloaded : ∀ settings size, .reloaded settings size ∉ es) :
      PassEffect calls thread a found es result a
  | drew {current : Resolution} {result : Option Bool} (read : found current)
      (looked : .targetRead true ∈ es) (drained : ran thread calls <+: story calls es)
      (loads : ∀ settings size,
        .reloaded settings size ∈ es ↔ a.due current = some ⟨settings, size⟩)
      (called : .renderCalled ∈ es) :
      PassEffect calls thread a found es result ((a.update current).2.loaded
        (((a.due current).map Reload.settings).getD a.settings))
  | broken {current : Resolution} (read : found current)
      (looked : .targetRead true ∈ es) (drained : ran thread calls <+: story calls es)
      (loads : ∀ settings size,
        .reloaded settings size ∈ es ↔ a.due current = some ⟨settings, size⟩)
      (uncalled : .renderCalled ∉ es) : PassEffect calls thread a found es none (a.update current).2

/-- Only phase changes determine phase and settings in force. -/
theorem inForce_filter {p : Event → Bool} {es : List Event}
    (h : ∀ e ∈ es, e.isPhaseChange = true → p e = true) (chosen : Settings) (older : List Event) :
    phaseOf (es.filter p ++ older) = phaseOf (es ++ older) ∧
      inForce chosen (es.filter p ++ older) = inForce chosen (es ++ older) := by
  induction es with
  | nil => exact ⟨rfl, rfl⟩
  | cons e es ih =>
    obtain ⟨phase, settings⟩ := ih fun x hx => h x (List.mem_cons_of_mem e hx)
    by_cases keep : p e = true
    · rw [List.filter_cons_of_pos keep]
      constructor
      · cases e with
        | targetRead present => cases present <;> first | rfl | exact phase
        | _ => first | rfl | exact phase
      · cases e with
        | renderCalled => simp only [List.cons_append, inForce, phase, settings]
        | _ => exact settings
    · have still : e.isPhaseChange = false := by
        cases stride : e.isPhaseChange with
        | false => rfl
        | true => exact absurd (h e List.mem_cons_self stride) keep
      rw [List.filter_cons_of_neg keep, List.cons_append, phaseOf_cons still, inForce_cons still]
      exact ⟨phase, settings⟩

section
variable {calls : List Runnable} {thread : Nat} {a now : Adapter} {found : Resolution → Prop}
  {result : Option Bool} {es tail older : List Event} {chosen : Settings}

theorem work_after (told : story calls es = ran thread calls ++ tail) :
    es.filter Event.isWork = (tail.filter Event.isWork).reverse := by
  rw [work_of_story calls, told, List.filter_append, ran_idle, List.nil_append]

theorem mem_after {e : Event} (work : e.isWork = true)
    (told : story calls es = ran thread calls ++ tail) : e ∈ es ↔ e ∈ tail := by
  have both : e ∈ es.filter Event.isWork ↔ e ∈ (tail.filter Event.isWork).reverse := by
    rw [work_after told]
  simpa [work] using both

theorem inForce_work (within : ∀ e ∈ es, e.isBracket = false) :
    inForce chosen (es ++ older) = inForce chosen (es.filter Event.isWork ++ older) := by
  refine (inForce_filter ?_ chosen older).2.symm
  intro e he stride
  have plain := within e he
  cases e <;> first | rfl | exact Bool.noConfusion stride | exact Bool.noConfusion plain

theorem inForce_drawn {due : Option Reload} (within : ∀ e ∈ es, e.isBracket = false)
    (drawn : tail = [] ∨ tail = [.rendered])
    (told : story calls es = ran thread calls ++
      .targetRead true :: (reloads due ++ .renderCalled :: tail)) :
    inForce chosen (es ++ older) = (due.map Reload.settings).getD (inForce chosen older) := by
  rw [inForce_work within, work_after told]
  rcases drawn with rfl | rfl <;> cases due <;> rfl

theorem inForce_undrawn {due : Option Reload} (within : ∀ e ∈ es, e.isBracket = false)
    (told : story calls es = ran thread calls ++ .targetRead true :: reloads due) :
    inForce chosen (es ++ older) = inForce chosen older := by
  rw [inForce_work within, work_after told]
  cases due <;> rfl

theorem Adapter.update_eq_loaded {current : Resolution} {settings : Settings}
    (resize : now.resize = (a.update current).2.resize)
    (pending : now.pending = (a.update current).2.pending) (loaded : now.settings = settings) :
    now = (a.update current).2.loaded settings := by
  obtain ⟨resize', settings', pending'⟩ := now
  subst resize pending loaded
  rfl

theorem Outcome.passEffect {w v : World} (o : Outcome calls thread a found w v result now es)
    (within : ∀ e ∈ es, e.isBracket = false) (was : a.settings = inForce chosen older)
    (settled : now.settings = inForce chosen (es ++ older)) :
    PassEffect calls thread a found es result now := by
  have drew {current : Resolution} {tail : List Event} {result : Option Bool}
      (read : found current) (resize : now.resize = (a.update current).2.resize)
      (pending : now.pending = (a.update current).2.pending)
      (drawn : tail = [] ∨ tail = [.rendered])
      (told : story calls es = ran thread calls ++
        .targetRead true :: (reloads (a.due current) ++ .renderCalled :: tail)) :
      PassEffect calls thread a found es result now := by
    rw [inForce_drawn within drawn told, ← was] at settled
    rw [Adapter.update_eq_loaded resize pending settled]
    refine .drew read (mem_of_told told (by simp)) ⟨_, told.symm⟩ (reloaded_iff told ?_)
      (mem_of_told told (by simp))
    rcases drawn with rfl | rfl <;> simp
  have kept {tail : List Event} (told : es.filter Event.isWork = tail)
      (idle : ∀ e ∈ tail, e = .targetRead false) :
      .targetRead true ∉ es ∧ ∀ settings size, .reloaded settings size ∉ es := by
    have only : ∀ e ∈ es, e.isWork = true → e = .targetRead false := fun e he work =>
      idle e (told ▸ List.mem_filter.mpr ⟨he, work⟩)
    constructor
    · intro mem
      cases only _ mem rfl
    · intro settings size mem
      cases only _ mem rfl
  cases o with
  | untargeted _ told =>
    obtain ⟨unread, unloaded⟩ := kept (work_after told) (by simp [Event.isWork])
    exact .kept unread unloaded
  | @drawn current _ _ rendered _ read resize pending told =>
    rw [a.update_reload] at told
    refine drew read resize pending ?_ told
    cases rendered
    · exact .inl rfl
    · exact .inr rfl
  | lost told =>
    obtain ⟨unread, unloaded⟩ := kept told (by simp)
    exact .kept unread unloaded
  | @broken current _ _ rendered read resize pending told =>
    rw [a.update_reload] at told
    cases rendered with
    | true => exact drew read resize pending (.inl rfl) told
    | false =>
      rw [if_neg Bool.false_ne_true, List.append_nil] at told
      rw [inForce_undrawn within told, ← was, ← a.update_settings current] at settled
      have same := Adapter.update_eq_loaded resize pending settled
      obtain rfl : now = (a.update current).2 := same
      have ended : story calls es
          = ran thread calls ++ .targetRead true :: (reloads (a.due current) ++ []) := by
        rw [told, List.append_nil]
      refine .broken read (mem_of_told told (by simp)) ⟨_, told.symm⟩ ?_ ?_
      · exact reloaded_iff ended (by simp)
      · rw [mem_after rfl told]
        cases a.due current <;> simp [reloads]

end

section
variable {b : AdapterOptions} {s x t : System} {thread : Nat} {earlier : List System}
  {w : World} {others popped : List Frame} {fault : Option Fault} {n : Machine}

theorem AdapterMove.ends (m : AdapterMove w others fault popped n)
    (opened : openPass w.journal = some thread) (closed : openPass n.world.journal = none) :
    ∃ result new, n.world.journal = .passEnded result :: (new ++ w.journal) ∧
      (∀ e ∈ new, e.isBracket = false ∧ e.isPhaseChange = false) ∧ n.world.adapter? = w.adapter? := by
  have stays {v : World} (h : w.Adds Event.isChore v) : openPass v.journal ≠ none := by
    rw [(phaseKept h).2.1, opened]
    simp
  have goesOn {e : Event} {logs : List Event} (plain : e.isBracket = false)
      (chores : ∀ e ∈ logs, e.isChore = true)
      (journal : n.world.journal = e :: (logs ++ .targetRead true :: w.journal)) : False := by
    have quiet : ∀ e ∈ logs, e.isBracket = false := fun e he =>
      Event.isBracket_of_isChore (chores e he)
    rw [journal, ← List.singleton_append, openPass_append (by simpa using plain),
      openPass_append quiet] at closed
    exact Option.some_ne_none thread (opened.symm.trans closed)
  cases m with
  | aside chores => exact absurd closed (stays chores)
  | departs chores => exact absurd closed (stays chores)
  | @asks _ _ v a r before after =>
    have ended : openPass v.journal = none := (phaseKept after).2.1.symm.trans closed
    exact absurd ended (stays before)
  | begins chores =>
    rw [(phaseKept chores).2.1] at closed
    cases closed
  | misses journal adapter =>
    exact ⟨some false, [.log .noRenderTarget, .targetRead false], journal,
      by simp [Event.isBracket, Event.isPhaseChange], adapter⟩
  | draws chores was idle journal => exact (goesOn rfl chores journal).elim
  | loads chores was due journal => exact (goesOn rfl chores journal).elim
  | returns was journal =>
    rw [journal] at closed
    exact absurd closed (by simp [openPass, opened])
  | @presents _ _ _ rendered e told journal adapter =>
    refine ⟨some rendered, [e], journal, ?_, adapter⟩
    rcases told with rfl | ⟨error, rfl⟩ <;> simp [Event.isBracket, Event.isPhaseChange]
  | aborts journal adapter => exact ⟨none, [], journal, by simp, adapter⟩

/-- A pass that ends has the pass effect on its adapter. -/
theorem Passing.passEffect (p : Passing s thread (x :: earlier)) (h : Reachable b s) (m : Move x t)
    (closed : FrameHost.openPass t.world.journal = none) :
    ∃ a result es now, s.world.adapter? = some a ∧
      Ending s thread a (FindsTarget (t :: x :: earlier)) x t result es now ∧
      (∀ e ∈ es, e.isBracket = false) ∧
      PassEffect (s.world.waiting .graphics) thread a (FindsTarget (t :: x :: earlier)) es result now := by
  obtain ⟨a, result, es, now, adapter, ending⟩ := p.ending h m closed
  have reached := p.latest h
  have within : ∀ e ∈ es, e.isBracket = false := by
    obtain ⟨_, old, _, _, moment⟩ := p.moment h
    obtain ⟨σ, popped, below, others, n, act⟩ := m.act
    have move := act.effect.adapterMove (reached.gated.perm act.before)
    rw [act.world] at closed
    obtain ⟨_, new, journal, plain, _⟩ := move.ends p.openPass closed
    rw [← act.world, ending.journal, moment.journal] at journal
    obtain ⟨_, same⟩ := List.cons.inj journal
    obtain rfl : es = new ++ old := List.append_cancel_right (same.trans (List.append_assoc ..).symm)
    intro e he
    rcases List.mem_append.mp he with news | before
    · exact (plain e news).1
    · exact moment.within e before
  have settled := (reached.move m).phased.settings now ending.adapter
  rw [ending.journal] at settled
  have was : a.settings = inForce b.settings (.passBegan thread :: s.world.journal) :=
    h.phased.settings a adapter
  exact ⟨a, result, es, now, adapter, ending, within, ending.outcome.passEffect within was settled⟩

end

end FrameHost
