import FrameHost.Proofs.BatchCourse
import FrameHost.Proofs.MainThread
import FrameHost.Proofs.Snapshots
import FrameHost.Proofs.Stage

/-!
Drains of a queue of calls, nested to any depth. A drain starts the calls that waited when it began and none
pushed later; those are left to drains that begin later, or stay in the queue.
-/
namespace FrameHost

namespace World

variable (w : World) (thread : Nat) (saved : Bool)

@[simp] theorem standalone_recordAll (es : List Event) : (w.recordAll es).standalone = w.standalone := by
  obtain ⟨j, eq⟩ := w.recordAll_eq es
  rw [eq]

@[simp] theorem standalone_draw : (w.draw thread saved).world.standalone = w.standalone := by
  unfold draw
  split <;> rfl

@[simp] theorem standalone_load (r : Reload) : (w.load thread saved r).world.standalone = w.standalone := by
  unfold load
  split <;> rfl

@[simp] theorem standalone_refresh (a : Adapter) :
    (w.refresh thread saved a).world.standalone = w.standalone := by
  unfold refresh
  dsimp only
  split <;> simp [setAdapter]

theorem standalone_readTarget : (w.readTarget thread saved).world.standalone = w.standalone := by
  unfold readTarget
  dsimp only
  split
  · exact standalone_refresh ..
  · rfl

theorem standalone_finishLoad (settings : Settings) :
    (w.finishLoad thread saved settings).world.standalone = w.standalone := by
  unfold finishLoad
  split <;> simp [setAdapter]

theorem standalone_present : (w.present saved).world.standalone = w.standalone := by
  unfold present
  split <;> rfl

theorem standalone_ask (h : Host) (r : AdapterRequest) : (w.ask h r).world.standalone = w.standalone := by
  unfold ask
  dsimp only
  split <;> exact standalone_recordAll (w.record (.requested r)) (r.warnings.map .log)

theorem standalone_drain (line : Line) (calls : List Runnable) (below : List Frame) :
    (w.drain thread line calls below).world.standalone = w.standalone := by
  unfold drain
  dsimp only
  split <;> rfl

theorem standalone_releaseGraphics : w.releaseGraphics.standalone = w.standalone := by
  obtain ⟨j, g, eq⟩ := w.releaseGraphics_eq
  rw [eq]

theorem standalone_dropReceiver : w.dropReceiver.standalone = w.standalone := by
  obtain ⟨j, eq⟩ := w.dropReceiver_eq
  rw [eq]

theorem standalone_dropHost : w.dropHost.standalone = w.standalone := by
  unfold dropHost
  dsimp only
  split
  · rfl
  · split
    · rw [standalone_dropReceiver, standalone_releaseGraphics]
    · rw [standalone_releaseGraphics]

end World

section
variable {w : World} {others popped : List Frame} {fault : Option Fault} {n : Machine}

theorem HostEffect.standalone (d : HostEffect w others fault popped n) : n.world.standalone = w.standalone := by
  cases d with
  | dropHost free => exact w.standalone_dropHost
  | ask still hosted r free => exact (World.standalone_ask ..).trans still.standalone
  | enter thread shared owned =>
    rw [w.enterPass_eq thread shared owned, World.standalone_drain]
    rfl
  | target thread saved => exact w.standalone_readTarget thread saved
  | loaded thread saved settings => exact w.standalone_finishLoad thread saved settings
  | present thread saved => exact w.standalone_present saved
  | abort thread saved phase => rfl

theorem StepEffect.standalone (d : StepEffect w others fault popped n) :
    n.world.standalone.isSome = w.standalone.isSome := by
  cases d with
  | quiet still => exact congrArg _ still.standalone
  | post thread label body still =>
    rw [← still.standalone]
    unfold World.post
    dsimp only
    split <;> rfl
  | dispatch label body =>
    unfold World.dispatch
    dsimp only
    split <;> rfl
  | enqueue label body light plain held => simp [Machine.proceed, World.record, held]
  | drain thread light plain held => simp [World.standalone_drain, held]
  | nextCall thread activation rest count => cases rest <;> rfl
  | nextMain thread activation queued ran =>
    unfold World.nextMain
    split
    · rfl
    · split <;> rfl
  | spill thread activation rest count =>
    obtain ⟨j, eq⟩ := w.destroyAll_eq rest
    simp [Machine.failing, eq]
  | dropHandle slot still =>
    have left : (w.dropHandle slot).standalone = w.standalone := World.standalone_releaseGraphics _
    exact congrArg _ (still.standalone.trans left)
  | dropReceiver => exact congrArg _ w.standalone_dropReceiver
  | host d => exact congrArg _ d.standalone
  | _ => rfl

end

def Concluding (s : System) (activation : Nat) : Prop :=
  (∃ thread rest count, .batch thread activation rest count ∈ s.frames) ∨
  (∃ count, .ended activation count ∈ s.world.journal) ∨
  ∃ k, .took activation k ∈ s.world.journal ∧ Broke s.world s.frames k

/-- The state of an activation that found `ws` when the journal was `older`. Unless one of its calls breaks,
it is under way or has returned, with all of `ws` started by it and their number as its answer. -/
structure Drain (s : System) (line : Line) (activation : Nat) (ws : List Nat) (older : List Event) : Prop where
  found : ws = unclaimed line older
  progress : Progress s.world.journal activation ws
  starts : ∀ k past, .took activation k :: past <:+ s.world.journal →
    ∃ thread, .started k thread :: .took activation k :: past <:+ s.world.journal
  concludes : (∀ k, .took activation k ∈ s.world.journal → ¬ Broke s.world s.frames k) →
    (∃ thread rest count, .batch thread activation rest count ∈ s.frames) ∨
      .ended activation ws.length ∈ s.world.journal
  answers : ∀ t count, Advance s t → .ended activation count ∈ t.world.journal →
    .ended activation count ∉ s.world.journal →
    count = ws.length ∧ ∃ τ ∈ t.strands, τ.fault = none ∧ τ.answer = .count ws.length

/-- A call pushed when the journal was `older` starts at most once, and no activation that began before
takes it. -/
structure Pushed (s : System) (line : Line) (k : Nat) (older : List Event) : Prop where
  once : s.world.tally (Event.starts k) ≤ 1
  spared : ∀ l a ws, .began l a ws ∈ older → .took a k ∉ s.world.journal
  taker : ∀ a, .took a k ∈ s.world.journal →
    ∃ ws past, .began line a ws :: past <:+ s.world.journal ∧ k ∈ ws ∧ .submitted line k ∈ past
  taken : line = .standalone → ∀ thread, .started k thread ∈ s.world.journal → ∃ a, .took a k ∈ s.world.journal

section
variable {w : World} {popped fs : List Frame} {fault : Option Fault} {n : Machine} {line : Line} {a k : Nat}
    {ws : List Nat} {older journal : List Event}

theorem batched_mono (kept : ∀ e ∈ older, e ∈ journal) (mem : k ∈ batched older) : k ∈ batched journal := by
  obtain ⟨e, he, taken⟩ := List.mem_flatMap.mp mem
  exact List.mem_flatMap.mpr ⟨e, kept e he, taken⟩

theorem RunnableMove.opens (d : RunnableMove w fault popped n) (began : .began line a ws ∈ n.world.journal) :
    .began line a ws ∈ w.journal ∨ a ∈ activations n.stack := by
  have earlier {es : List Event} (journal : n.world.journal = es ++ w.journal) (new : .began line a ws ∉ es) :
      .began line a ws ∈ w.journal := by
    rw [journal] at began
    exact (List.mem_append.mp began).resolve_left new
  cases d with
  | aside same => exact .inl (same ▸ began)
  | finishes ticket world => exact .inl (@earlier [.finished ticket] (by rw [world]; rfl) (by simp))
  | abandons ticket world => exact .inl (world ▸ began)
  | queues line r own writes => exact .inl (earlier writes.journal (by simp))
  | inline thread body writes => exact .inl (earlier writes.journal (by simp))
  | refuses label writes => exact .inl (earlier writes.journal (by simp))
  | takes line thread own writes tickets emptied others calm stack =>
    rw [stack, activations_top rfl]
    simp only [writes.journal, List.singleton_append, List.mem_cons, Event.began.injEq] at began
    exact began.symm.imp_right fun ⟨_, same, _⟩ => same ▸ List.mem_cons_self
  | rounds thread writes tickets waiting calm stack =>
    rw [stack, activations_top rfl]
    simp only [writes.journal, List.singleton_append, List.mem_cons, Event.began.injEq] at began
    exact began.symm.imp_right fun ⟨_, same, _⟩ => same ▸ List.mem_cons_self
  | calls thread activation count r rest line well own rests writes =>
    exact .inl (earlier writes.journal (by simp))
  | serves thread activation queued ran r rest well short waits writes =>
    exact .inl (earlier writes.journal (by simp))
  | closes thread activation count line well own rests writes => exact .inl (earlier writes.journal (by simp))
  | returns thread activation queued ran well spent writes => exact .inl (earlier writes.journal (by simp))
  | spills thread activation count rest line unwinding own rests world =>
    refine .inl (earlier (world ▸ w.journal_destroyAll rest) fun new => ?_)
    cases destructions_idle rest _ new

theorem Ledger.pushed_once (ledger : Ledger w fs) (since : .submitted line k :: older <:+ w.journal) :
    .submitted line k ∉ older := by
  intro again
  have once := ledger.once k
  have counted : 0 < older.countP (Event.submits k) := List.countP_pos_iff.mpr
    ⟨_, again, by simp [Event.submits]⟩
  have all : (Event.submitted line k :: older).countP (Event.submits k) ≤ w.tally (Event.submits k) :=
    since.sublist.countP_le
  rw [List.countP_cons_of_pos (by simp [Event.submits])] at all
  omega

end

section
variable {s t : System} {line : Line} {a k : Nat} {ws : List Nat} {older : List Event}

theorem InUse.batches (h : InUse s) : Batches s.world s.frames := (kept_batches.inUse h).2

theorem InUse.taken_started (h : InUse s) (took : .took a k ∈ s.world.journal) :
    ∃ thread, .started k thread ∈ s.world.journal := by
  obtain ⟨before, after, split⟩ := List.append_of_mem took
  obtain ⟨thread, since⟩ := h.snapshotJournal.starts (split ▸ List.suffix_append before _)
  exact ⟨thread, since.subset List.mem_cons_self⟩

theorem InUse.claimed (h : InUse s) (own : line ≠ .mainThread) (pushed : .submitted line k ∈ s.world.journal)
    (took : .took a k ∈ s.world.journal) : ∃ ws, .began line a ws ∈ s.world.journal ∧ k ∈ ws := by
  obtain ⟨l, ws, began, filed⟩ := h.batches.taken a k took
  obtain rfl := h.ledger.line_unique filed pushed
  exact ⟨ws, began, (h.batches.course l a ws own began).front.subset (mem_takes.mpr took)⟩

theorem InUse.pushedBefore (h : InUse s) (own : line ≠ .mainThread)
    (since : .began line a ws :: older <:+ s.world.journal) (mem : k ∈ ws) : .submitted line k ∈ older := by
  rw [h.snapshotJournal.found own since] at mem
  exact mem_pushes.mp (List.mem_filter.mp mem).1

theorem InUse.started_taken (h : InUse s) {thread : Nat} (pushed : .submitted .standalone k ∈ s.world.journal)
    (started : .started k thread ∈ s.world.journal) : ∃ a, .took a k ∈ s.world.journal := by
  refine (h.batches.started k thread started).resolve_right fun inline => ?_
  cases h.ledger.line_unique pushed inline

theorem InUse.pushed (h : InUse s) (own : line ≠ .mainThread)
    (since : .submitted line k :: older <:+ s.world.journal) : Pushed s line k older := by
  have here := since.subset List.mem_cons_self
  refine ⟨h.ledger.starts_le_one k, ?_, ?_, ?_⟩
  · intro l b vs early took
    obtain ⟨ws, began, mem⟩ := h.claimed own here took
    have before := since.subset (List.mem_cons_of_mem _ early)
    obtain ⟨rfl, rfl⟩ := (kept_numbered.inUse h).unique _ _ _ _ _ before began
    -- Otherwise the activation would have found the call before it was pushed.
    obtain ⟨front, past, rfl⟩ := List.append_of_mem early
    have place : .began l b vs :: past <:+ front ++ .began l b vs :: past := List.suffix_append ..
    have pushed := h.pushedBefore own ((place.trans (List.suffix_cons _ _)).trans since) mem
    exact h.ledger.pushed_once since (place.subset (List.mem_cons_of_mem _ pushed))
  · intro b took
    obtain ⟨ws, began, mem⟩ := h.claimed own here took
    obtain ⟨front, past, split⟩ := List.append_of_mem began
    have place : .began line b ws :: past <:+ s.world.journal := split ▸ List.suffix_append front _
    exact ⟨ws, past, place, mem, h.pushedBefore own place mem⟩
  · rintro rfl thread started
    exact h.started_taken here started

theorem InUse.concluding_act (h : InUse s) (adv : Advance s t) {σ : Strand} {thread count : Nat}
    {rest : List Runnable} {below : List Frame} {others : List Strand} {n : Machine}
    (act : Act s t σ [.batch thread a rest count] below others n) : Concluding t a := by
  rcases act.effect.of_batch with ⟨_, eq⟩ | ⟨raised, failing, _⟩
  · cases rest with
    | nil =>
      have ended : .ended a count ∈ n.world.journal := by
        rw [eq]
        exact List.mem_cons_self
      exact .inr (.inl ⟨count, act.world ▸ ended⟩)
    | cons r rest =>
      have laid : .batch thread a rest count ∈ n.stack := by
        simp [eq, World.nextCall, World.start, Machine.proceed]
      exact .inl ⟨thread, rest, count, act.after.mem_iff.mpr (List.mem_append_left _ laid)⟩
  · obtain ⟨k, called, broke⟩ := (h.orderly σ act.mem).blamed thread a rest count below
      (by simp [failing]) act.stack
    exact .inr (.inr ⟨k, adv.kept _ called.took, h.broke_later adv broke called.started⟩)

theorem InUse.concluding_next (h : InUse s) (adv : Advance s t) (now : Concluding s a) : Concluding t a := by
  rcases now with ⟨thread, rest, count, mem⟩ | ⟨count, ended⟩ | ⟨k, took, broke⟩
  · cases adv with
    | external e => exact .inl ⟨thread, rest, count, mem⟩
    | move m =>
      obtain ⟨σ, popped, below, others, n, act⟩ := m.act
      rcases List.mem_append.mp (act.before.mem_iff.mp mem) with here | later
      · rcases act.top with ⟨none, _⟩ | ⟨f, one⟩
        · simp [none] at here
        · rw [one] at here act
          rw [← List.mem_singleton.mp here] at act
          exact h.concluding_act (.move m) act
      · exact .inl ⟨thread, rest, count, act.after.mem_iff.mpr (List.mem_append_right _ later)⟩
  · exact .inr (.inl ⟨count, adv.kept _ ended⟩)
  · exact .inr (.inr ⟨k, adv.kept _ took, h.broke_later adv broke (h.taken_started took)⟩)

theorem InUse.concluding (h : InUse s) (own : line ≠ .mainThread) (began : .began line a ws ∈ s.world.journal) :
    Concluding s a := by
  induction h with
  | idle strands blank => cases blank.events _ began
  | @next s t used adv ih =>
    by_cases old : .began line a ws ∈ s.world.journal
    · exact used.concluding_next adv (ih old)
    · cases adv with
      | external e => exact absurd (e.losesLines.recalls rfl began) old
      | move m =>
        obtain ⟨σ, popped, below, others, n, act⟩ := m.act
        cases used.runnableTurn act with
        | losesLines losesLines => exact absurd (losesLines.recalls rfl (act.world ▸ began)) old
        | @moves u v before runnableMove after =>
          rcases runnableMove.opens ((World.LosesLines.keepsRunnables after).recalls rfl
            (act.world ▸ began)) with early | laid
          · exact absurd ((World.LosesLines.keepsRunnables before).recalls rfl early) old
          · obtain ⟨f, hf, named⟩ := mem_activations.mp laid
            have mem := act.after.mem_iff.mpr (List.mem_append_left _ hf)
            cases f with
            | batch thread b rest count =>
              cases named
              exact .inl ⟨thread, rest, count, mem⟩
            | round thread b count ran =>
              cases named
              -- A round is an activation on the channel, not on a queue.
              obtain ⟨_, numbered, rounds⟩ := kept_rounds.inUse (used.next (.move m))
              obtain ⟨⟨queued, found, _⟩, _⟩ := rounds.underway thread a count ran mem
              exact (numbered.afar found own began).elim
            | _ => cases named

theorem InUse.drain (h : InUse s) (own : line ≠ .mainThread)
    (since : .began line a ws :: older <:+ s.world.journal) : Drain s line a ws older := by
  have began := since.subset List.mem_cons_self
  have progress := h.batches.course line a ws own began
  refine ⟨h.snapshotJournal.found own since, progress, fun k past => h.snapshotJournal.starts, ?_, ?_⟩
  · intro sound
    rcases h.concluding own began with underway | ⟨count, ended⟩ | ⟨k, took, broke⟩
    · exact .inl underway
    · obtain ⟨_, rfl⟩ := progress.whole count ended
      exact .inr ended
    · exact absurd broke (sound k took)
  · intro t count adv ended first
    obtain ⟨_, all⟩ := ((h.next adv).batches.course line a ws own (adv.kept _ began)).whole count ended
    exact ⟨all, all ▸ h.answers adv ended first⟩

theorem InUse.undropped (h : InUse s) (alive : s.world.standalone.isSome = true) {label : Option String}
    (destroyed : .destroyed k label ∈ s.world.journal) :
    k ∈ batched s.world.journal ∨ ∃ line, line ≠ .standalone ∧ .submitted line k ∈ s.world.journal := by
  induction h with
  | idle strands blank => cases blank.journal _ destroyed
  | @next s t used adv ih =>
    have kept := adv.kept
    have earlier (alive : s.world.standalone.isSome = true) (old : .destroyed k label ∈ s.world.journal) :
        k ∈ batched t.world.journal ∨ ∃ line, line ≠ .standalone ∧ .submitted line k ∈ t.world.journal :=
      (ih alive old).imp (batched_mono kept) fun ⟨line, other, filed⟩ => ⟨line, other, kept _ filed⟩
    cases adv with
    | external e =>
      cases e with
      | cloneSender slot held => exact earlier alive destroyed
      | dropSender slot => exact earlier alive destroyed
      | dropQueue =>
        unfold QueueSession.drop at alive destroyed
        split at alive
        · rename_i none
          simp [none] at alive
        · rename_i q held
          obtain ⟨j, eq⟩ := World.discardCalls_eq { s.world with standalone := none } q
          simp [eq] at alive
    | move m =>
      obtain ⟨σ, popped, below, others, n, act⟩ := m.act
      have was : s.world.standalone.isSome = true := by
        rw [← act.effect.standalone, ← act.world]
        exact alive
      rw [act.world] at destroyed kept earlier ⊢
      rcases act.effect.cause _ destroyed rfl with old | cause
      · exact earlier was old
      · generalize event : Event.destroyed k label = e at cause
        cases cause with
        | @spilled r rest thread activation count failing top mem =>
          cases event
          have held : .batch thread activation rest count ∈ s.frames :=
            act.before.mem_iff.mpr (by simp [top])
          exact .inl (batched_mono kept (used.held_batched (one_le_heldBy held (one_le_copies mem))))
        | released waits =>
          cases event
          exact .inr ⟨.graphics, by decide, kept _ (used.ledger.filed .graphics _ waits)⟩
        | unreceived waits =>
          cases event
          exact .inr ⟨.mainThread, by decide, kept _ (used.ledger.filed .mainThread _ waits)⟩
        | refused label submitted =>
          cases event
          exact .inr ⟨.mainThread, by decide, submitted⟩
        | _ => cases event

/-- While the standalone queue is there, it loses only calls that an activation had found. -/
theorem InUse.left_standalone (h : InUse s) (alive : s.world.standalone.isSome = true) :
    (s.world.waiting .standalone).map Runnable.ticket
      = (pushes .standalone s.world.journal).filter (· ∉ batched s.world.journal) := by
  rw [h.left (by decide)]
  refine List.filter_congr fun k mem => ?_
  have pushed := mem_pushes.mp mem
  rw [decide_eq_decide]
  refine ⟨And.left, fun unfound => ⟨unfound, ?_, ?_⟩⟩
  · intro started
    obtain ⟨thread, started⟩ := mem_started.mp started
    obtain ⟨a, took⟩ := h.started_taken pushed started
    obtain ⟨ws, began, found⟩ := h.claimed (by decide) pushed took
    exact unfound (mem_batched.mpr ⟨_, a, ws, by decide, began, found⟩)
  · intro destroyed
    obtain ⟨label, destroyed⟩ := mem_destroyed.mp destroyed
    rcases h.undropped alive destroyed with found | ⟨l, other, filed⟩
    · exact unfound found
    · exact other (h.ledger.line_unique filed pushed)

theorem InUse.returns {m : Machine} (h : InUse m.alone) (own : line ≠ .mainThread)
    (began : .began line a ws ∈ m.run.world.journal)
    (sound : ∀ k, .took a k ∈ m.run.world.journal → ¬ Broke m.run.world m.run.alone.frames k) :
    takes a m.run.world.journal = ws ∧ .ended a ws.length ∈ m.run.world.journal := by
  have used : InUse m.run.alone := h.alone_runFor _
  have rested : m.run.alone.frames = [] := by
    simp [System.frames, Machine.alone, Machine.strand, m.run_stack]
  obtain ⟨front, past, split⟩ := List.append_of_mem began
  have since : .began line a ws :: past <:+ m.run.alone.world.journal := split ▸ List.suffix_append front _
  have drain := used.drain own since
  rcases drain.concludes sound with ⟨thread, rest, count, mem⟩ | ended
  · rw [rested] at mem
    cases mem
  · exact ⟨(drain.progress.whole _ ended).1, ended⟩

/-- Every drain, at any nesting depth, starts the calls that waited when it began, in push order, and
returns their number. Calls pushed after it began are left to drains that begin later, and calls that no
activation has found still wait in push order. A strand alone brings all its drains to their end. -/
theorem drains_take_what_waited (h : InUse s) (own : line ≠ .mainThread) :
    (s.world.waiting line).map Runnable.ticket = unclaimed line s.world.journal ∧
    (s.world.standalone.isSome = true → (s.world.waiting .standalone).map Runnable.ticket
      = (pushes .standalone s.world.journal).filter (· ∉ batched s.world.journal)) ∧
    (∀ t a ws, Advance s t → .began line a ws ∈ t.world.journal → .began line a ws ∉ s.world.journal →
      ws = (s.world.waiting line).map Runnable.ticket) ∧
    (∀ a ws older, .began line a ws :: older <:+ s.world.journal → Drain s line a ws older) ∧
    (∀ k older, .submitted line k :: older <:+ s.world.journal → Pushed s line k older) ∧
    ∀ m : Machine, s = m.alone → ∀ a ws, .began line a ws ∈ m.run.world.journal →
      (∀ k, .took a k ∈ m.run.world.journal → ¬ Broke m.run.world m.run.alone.frames k) →
      takes a m.run.world.journal = ws ∧ .ended a ws.length ∈ m.run.world.journal := by
  refine ⟨h.left own, h.left_standalone, ?_, ?_, ?_, ?_⟩
  · intro t a ws adv began first
    exact h.finds adv began first
  · intro a ws older since
    exact h.drain own since
  · intro k older since
    exact h.pushed own since
  · rintro m rfl a ws began sound
    exact h.returns own began sound

def Machine.sampleNest : Machine :=
  let nested := Script.nest (.enqueue none) .done (.act .drainQueue (.nest (.enqueue none) .done .done))
  let body := Script.nest (.enqueue none) nested (.nest (.enqueue none) .done (.act .drainQueue .done))
  (Request.act body).carryOut World.sampleQueue 0

theorem inUse_sampleNest : InUse Machine.sampleNest.alone := inUse_sampleQueue.alone_carryOut rfl _ 0

theorem drains_take_what_waited_sample : InUse Machine.sampleNest.alone ∧
    startedTickets Machine.sampleNest.world.journal = [0, 3, 1] ∧
    takes 2 Machine.sampleNest.world.journal = [0, 1] ∧ takes 4 Machine.sampleNest.world.journal = [3] ∧
    .took 2 3 ∉ Machine.sampleNest.world.journal ∧
    (Machine.sampleNest.world.waiting .standalone).map Runnable.ticket = [5] := by
  obtain ⟨_, left, _, drains, pushed, _⟩ :=
    drains_take_what_waited inUse_sampleNest (show Line.standalone ≠ .mainThread by decide)
  let before : List Event := [.submitted .standalone 1, .submitted .standalone 0]
  let since : List Event := [.started 0 0, .took 2 0, .log (.runningCalls 2),
    .began .standalone 2 [0, 1]] ++ before
  have outer := drains 2 [0, 1] before (by decide)
  have inner := drains 4 [3] (.submitted .standalone 3 :: since) (by decide)
  have third := pushed 3 since (by decide)
  refine ⟨inUse_sampleNest, by decide, (outer.progress.whole 2 (by decide)).1,
    (inner.progress.whole 1 (by decide)).1, third.spared .standalone 2 [0, 1] (by decide), ?_⟩
  exact (left (by decide)).trans (by decide)

end

end FrameHost
