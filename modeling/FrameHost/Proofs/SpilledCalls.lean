import FrameHost.Proofs.FrameStage
import FrameHost.Proofs.SkippedFrames

/-!
The state after a pass in which a call raises. The fault unwinds the call, then the batch, whose remaining
calls are destroyed, and then the pass, which only restores the gate.
-/
namespace FrameHost

def Event.concerns (calls : List Runnable) (e : Event) : Bool :=
  e.tells calls || calls.any fun r => e.destroys r.ticket

/-- The events of the calls and of the renderer in a pass, with the destructions of calls, oldest first. -/
def account (calls : List Runnable) (es : List Event) : List Event :=
  (es.filter (Event.concerns calls)).reverse

/-- A call of a pass has raised; its fault is about to unwind the batch, in which `rest` has not started. -/
def System.Raises (x : System) (thread ticket : Nat) (rest : List Runnable) : Prop :=
  ∃ σ ∈ x.strands, ∃ activation count saved below, σ.fault.isSome = true ∧
    σ.stack = .running ticket :: .batch thread activation rest count :: .pass thread saved .target :: below

/-- The progress of the fault of a call, by the frames above the pass and the events since the pass began.
-/
inductive Spilling (calls : List Runnable) (thread : Nat) (taken : List Runnable) (r : Runnable)
    (rest : List Runnable) (w : World) (fs : List Frame) : List Frame → List Event → Prop where
  | call {activation count : Nat} {es : List Event}
      (told : account calls es = ran thread taken ++ [.started r.ticket thread]) :
      Spilling calls thread taken r rest w fs [.running r.ticket, .batch thread activation rest count] es
  | batch {activation count : Nat} {es : List Event} (broke : Broke w fs r.ticket)
      (told : account calls es = ran thread taken ++ [.started r.ticket thread]) :
      Spilling calls thread taken r rest w fs [.batch thread activation rest count] es
  | pass {es : List Event} (broke : Broke w fs r.ticket)
      (told : account calls es = ran thread taken ++ .started r.ticket thread ::
        rest.map fun q => .destroyed q.ticket q.label) : Spilling calls thread taken r rest w fs [] es

structure Spills (s : System) (thread : Nat) (taken : List Runnable) (r : Runnable) (rest : List Runnable)
    (x : System) (σ : Strand) (es : List Event) : Prop where
  mem : σ ∈ x.strands
  raised : σ.fault.isSome = true
  journal : x.world.journal = es ++ .passBegan thread :: s.world.journal
  stage : ∃ up saved below, σ.stack = up ++ .pass thread saved .target :: below ∧
    Spilling (s.world.waiting .graphics) thread taken r rest x.world x.frames up es

structure SpilledPass (s x t : System) (thread : Nat) (taken : List Runnable) (r : Runnable)
    (rest : List Runnable) (es : List Event) : Prop where
  journal : t.world.journal = .passEnded none :: (es ++ .passBegan thread :: s.world.journal)
  told : account (s.world.waiting .graphics) es = ran thread taken ++ .started r.ticket thread ::
    rest.map fun q => .destroyed q.ticket q.label
  idle : ∀ e ∈ es, e.isWork = false
  unstarted : ∀ q ∈ rest, ∀ other, .started q.ticket other ∉ t.world.journal
  leaves : x.Leaves t thread none
  adapter : t.world.adapter? = s.world.adapter?
  context : ∃ g, t.world.graphics = some g ∧ g.affinity.owner = some thread ∧ g.gate = .closed ∧
    ∀ other, g.allows other = false

theorem account_append (calls : List Runnable) (es older : List Event) :
    account calls (es ++ older) = account calls older ++ account calls es := by
  simp [account]

theorem account_none {calls : List Runnable} {es : List Event} (untold : ∀ e ∈ es, e.tells calls = false)
    (spared : ∀ r ∈ calls, ∀ e ∈ es, e.destroys r.ticket = false) : account calls es = [] := by
  simp only [account, List.reverse_eq_nil_iff, List.filter_eq_nil_iff, Bool.not_eq_true, Event.concerns,
    Bool.or_eq_false_iff, List.any_eq_false]
  intro e he
  exact ⟨untold e he, fun r hr => by simpa using spared r hr e he⟩

theorem account_destructions {calls rest : List Runnable} (sub : ∀ q ∈ rest, q ∈ calls) :
    account calls (destructions rest) = rest.map fun q => .destroyed q.ticket q.label := by
  have told : ∀ e ∈ rest.map (fun q : Runnable => Event.destroyed q.ticket q.label),
      Event.concerns calls e = true := by
    intro e he
    obtain ⟨q, hq, rfl⟩ := List.mem_map.mp he
    simp only [Event.concerns, Bool.or_eq_true, List.any_eq_true]
    exact .inr ⟨q, sub q hq, by simp [Event.destroys]⟩
  rw [account, destructions, List.filter_reverse, List.reverse_reverse, List.filter_eq_self.mpr told]

theorem account_eq_story {calls : List Runnable} {es : List Event}
    (spared : ∀ r ∈ calls, ∀ e ∈ es, e.destroys r.ticket = false) : account calls es = story calls es := by
  refine congrArg List.reverse (List.filter_congr fun e he => ?_)
  have none : (calls.any fun r => e.destroys r.ticket) = false :=
    List.any_eq_false.mpr fun r hr => by simpa using spared r hr e he
  rw [Event.concerns, none, Bool.or_false]

theorem Ledger.none_destroyed {v : World} {fs : List Frame} {ticket : Nat} (h : Ledger v fs)
    (acc : Accounted v.journal fs ticket) : v.tally (Event.destroys ticket) = 0 := by
  have balance := h.balance ticket
  have once := h.once ticket
  rcases acc with ⟨⟨thread, started⟩, _⟩ | held
  · have begun := World.one_le_starts started
    omega
  · omega

theorem Ledger.account_chores {v : World} {fs : List Frame} {es older : List Event} {calls : List Runnable}
    (h : Ledger v fs) (journal : v.journal = es ++ older) (chores : ∀ e ∈ es, e.isChore = true)
    (d : ∀ r ∈ calls, Decided v fs older r.ticket) : account calls es = [] := by
  refine account_none (fun e he => ?_) fun r hr e he => (h.decided_events journal (d r hr) e he).2.2
  refine Event.tells_chore (chores e he) fun r hr => ?_
  obtain ⟨noStart, noEnd, _⟩ := h.decided_events journal (d r hr) e he
  exact ⟨noStart, noEnd⟩

section
variable {calls taken rest up : List Runnable} {r : Runnable} {thread : Nat} {w v : World}
    {fs gs up : List Frame}
    {es new older : List Event}

theorem mem_of_account {told : List Event} {e : Event} (h : account calls es = told) (mem : e ∈ told) :
    e ∈ es := by
  rw [← h] at mem
  exact (List.mem_filter.mp (List.mem_reverse.mp mem)).1

theorem idle_of_account (told : account calls es = ran thread taken ++ .started r.ticket thread ::
    rest.map fun q => .destroyed q.ticket q.label) : ∀ e ∈ es, e.isWork = false := by
  intro e he
  cases work : e.isWork with
  | false => rfl
  | true =>
    have tells : e.tells calls = true := by cases e <;> first | exact work | cases work
    have mem : e ∈ account calls es :=
      List.mem_reverse.mpr (List.mem_filter.mpr ⟨he, by simp [Event.concerns, tells]⟩)
    rw [told] at mem
    rcases List.mem_append.mp mem with early | late
    · obtain ⟨q, _, here⟩ := List.mem_flatMap.mp early
      simp only [List.mem_cons, List.not_mem_nil, or_false] at here
      rcases here with rfl | rfl <;> cases work
    · rcases List.mem_cons.mp late with rfl | gone
      · cases work
      · obtain ⟨q, _, rfl⟩ := List.mem_map.mp gone
        cases work

theorem Spilling.started (st : Spilling calls thread taken r rest w fs up es) :
    .started r.ticket thread ∈ es := by
  cases st with
  | call told => exact mem_of_account told (by simp)
  | batch _ told => exact mem_of_account told (by simp)
  | pass _ told => exact mem_of_account told (by simp)

theorem Spilling.moved (st : Spilling calls thread taken r rest w fs up es)
    (broken : Broke w fs r.ticket → Broke v gs r.ticket) : Spilling calls thread taken r rest v gs up es := by
  cases st with
  | call told => exact .call told
  | batch broke told => exact .batch (broken broke) told
  | pass broke told => exact .pass (broken broke) told

theorem Spilling.later (st : Spilling calls thread taken r rest w fs up es) (untold : account calls new = []) :
    Spilling calls thread taken r rest w fs up (new ++ es) := by
  have same : account calls (new ++ es) = account calls es := by rw [account_append, untold, List.append_nil]
  cases st with
  | call told => exact .call (same.trans told)
  | batch broke told => exact .batch broke (same.trans told)
  | pass broke told => exact .pass broke (same.trans told)

theorem Spilling.decided (st : Spilling calls thread taken r rest w fs up es)
    (split : calls = taken ++ r :: rest)
    (above : ∀ f ∈ up, f ∈ fs) (older : List Event) : ∀ q ∈ calls, Decided w fs (es ++ older) q.ticket := by
  have begun : .started r.ticket thread ∈ es ++ older := List.mem_append_left _ st.started
  have first {tail : List Event} (told : account calls es = ran thread taken ++ tail) :
      ∀ q ∈ taken, Decided w fs (es ++ older) q.ticket := by
    intro q hq
    obtain ⟨started, finished⟩ := mem_ran thread hq
    have begun := mem_of_account told (List.mem_append_left tail started)
    have ended := mem_of_account told (List.mem_append_left tail finished)
    exact .accounted (.inl ⟨⟨thread, List.mem_append_left _ begun⟩, .inl (List.mem_append_left _ ended)⟩)
  intro q hq
  rw [split] at hq
  rcases List.mem_append.mp hq with early | late
  · cases st with
    | call told => exact first told q early
    | batch _ told => exact first told q early
    | pass _ told => exact first told q early
  · cases st with
    | @call activation count _ told =>
      rcases List.mem_cons.mp late with rfl | left
      · exact .accounted (.inl ⟨⟨thread, begun⟩, .inr (above _ (by simp))⟩)
      · exact .accounted (.inr (one_le_heldBy (above (.batch thread activation rest count) (by simp))
          (one_le_copies left)))
    | @batch activation count _ broke told =>
      rcases List.mem_cons.mp late with rfl | left
      · exact .broken begun broke
      · exact .accounted (.inr (one_le_heldBy (above (.batch thread activation rest count) (by simp))
          (one_le_copies left)))
    | pass broke told =>
      rcases List.mem_cons.mp late with rfl | left
      · exact .broken begun broke
      · have gone : .destroyed q.ticket q.label ∈ es :=
          mem_of_account told (List.mem_append_right _ (List.mem_cons_of_mem _ (List.mem_map_of_mem left)))
        exact .destroyed (List.mem_append_left _ gone)

end

section
variable {b : AdapterOptions} {s x y : System} {thread : Nat} {taken rest : List Runnable} {r : Runnable}
    {σ τ : Strand} {es : List Event} {popped below : List Frame} {others : List Strand} {n : Machine}

theorem Act.broke {ticket : Nat} (act : Act x y τ popped below others n) (after : Ledger y.world y.frames)
    (broke : Broke x.world x.frames ticket) (started : ∃ thread, .started ticket thread ∈ x.world.journal) :
    Broke y.world y.frames ticket := by
  rw [act.world] at after ⊢
  exact ((broke.perm act.before).ledgerMove act.effect.ledgerMove
    (after.perm act.after) started).perm act.after.symm

theorem Spills.wait (sp : Spills s thread taken r rest x σ es) (h : Reachable b x) (after : Reachable b y)
    (split : s.world.waiting .graphics = taken ++ r :: rest) (act : Act x y τ popped below others n)
    (other : σ ∈ others) :
    openPass y.world.journal = openPass x.world.journal ∧ ∃ es, Spills s thread taken r rest y σ es := by
  obtain ⟨up, saved, under, stack, st⟩ := sp.stage
  have has : σ.HasHost := ⟨.pass thread saved .target, by simp [stack], rfl⟩
  have mem : σ ∈ y.strands := (act.new σ).mpr (.inr other)
  rcases act.effect.aside_or_host with ⟨aside, _⟩ | d
  · obtain ⟨new, journal, chores⟩ := aside.journal
    rw [← act.world, sp.journal] at journal
    have begun : .started r.ticket thread ∈ x.world.journal := by
      rw [sp.journal]
      exact List.mem_append_left _ st.started
    have still := st.moved fun broke => act.broke after.ledger broke ⟨thread, begun⟩
    have above : ∀ f ∈ up, f ∈ y.frames := fun f hf =>
      List.mem_flatMap.mpr ⟨σ, mem, by rw [stack]; exact List.mem_append_left _ hf⟩
    have untold := after.ledger.account_chores journal chores (still.decided split above _)
    refine ⟨?_, new ++ es, mem, sp.raised, ?_, up, saved, under, stack, still.later untold⟩
    · rw [act.world]
      exact (World.KeepsGate.of_aside aside).openPass
    · rw [journal, List.append_assoc]
  · -- Only the strand of the pass holds the host.
    have apart := h.bystander act other has
    have inside : openPass x.world.journal = some thread := by
      refine (h.inPass_iff thread).mp ⟨saved, .target, List.mem_flatMap.mpr ⟨σ, sp.mem, by simp [stack]⟩⟩
    obtain ⟨saved', phase, rfl⟩ := h.pass_on_top inside act d
    cases apart (.pass thread saved' phase) (by simp [act.stack])

/-- The fault unwinds the call, then the batch, then the pass. -/
theorem Spills.step (sp : Spills s thread taken r rest x σ es) (h : Reachable b x) (after : Reachable b y)
    (split : s.world.waiting .graphics = taken ++ r :: rest) (act : Stepping x y σ popped below others n) :
    (openPass y.world.journal = openPass x.world.journal ∧ ∃ τ es, Spills s thread taken r rest y τ es) ∨
      y.world.journal = .passEnded none :: (es ++ .passBegan thread :: s.world.journal) ∧
        account (s.world.waiting .graphics) es = ran thread taken ++ .started r.ticket thread ::
          rest.map fun q => .destroyed q.ticket q.label := by
  obtain ⟨up, saved, under, stack, st⟩ := sp.stage
  obtain ⟨fault, raised⟩ := Option.isSome_iff_exists.mp sp.raised
  cases st with
  | @call activation count _ told =>
    obtain rfl := act.unwinds stack raised
    obtain ⟨rfl, rfl⟩ := act.on_top stack
    have world : y.world = x.world := act.world
    have broke : Broke y.world y.frames r.ticket := by
      rw [world]
      exact (h.ledger.perm act.before).broke.perm act.after.symm
    refine .inl ⟨by rw [world], _, es, act.new_mem, rfl, ?_, _, saved, under, rfl, .batch broke told⟩
    rw [world, sp.journal]
  | @batch activation count _ broke told =>
    obtain rfl := act.unwinds stack raised
    obtain ⟨rfl, rfl⟩ := act.on_top stack
    have world : y.world = x.world.destroyAll rest := act.world
    have begun : .started r.ticket thread ∈ x.world.journal := by
      rw [sp.journal]
      exact List.mem_append_left _ (mem_of_account told (by simp))
    have broke : Broke y.world y.frames r.ticket := act.broke after.ledger broke ⟨thread, begun⟩
    refine .inl ⟨?_, _, destructions rest ++ es, act.new_mem, rfl, ?_, [], saved, under, rfl, .pass broke ?_⟩
    · rw [world]
      exact (World.KeepsGate.of_aside (.destroyAll x.world rest)).openPass
    · rw [world, World.journal_destroyAll, sp.journal, List.append_assoc]
    · have sub : ∀ q ∈ rest, q ∈ s.world.waiting .graphics := fun q hq => by simp [split, hq]
      rw [account_append, told, account_destructions sub, List.append_assoc]
      rfl
  | pass broke told =>
    obtain rfl := act.unwinds stack raised
    refine .inr ⟨?_, told⟩
    rw [act.world, ← sp.journal]
    rfl

theorem Spills.next (sp : Spills s thread taken r rest x σ es) (h : Reachable b x)
    (split : s.world.waiting .graphics = taken ++ r :: rest) (m : Move x y) :
    (openPass y.world.journal = openPass x.world.journal ∧ ∃ τ es, Spills s thread taken r rest y τ es) ∨
      ∃ es, y.world.journal = .passEnded none :: (es ++ .passBegan thread :: s.world.journal) ∧
        account (s.world.waiting .graphics) es = ran thread taken ++ .started r.ticket thread ::
          rest.map fun q => .destroyed q.ticket q.label := by
  have after := h.move m
  have busy : σ.stack ≠ [] := by
    obtain ⟨up, saved, under, stack, _⟩ := sp.stage
    simp [stack]
  rcases m.steps_or_waits sp.mem busy with
    ⟨popped, below, others, n, act⟩ | ⟨τ, popped, below, others, n, act, other⟩
  · rcases sp.step h after split act with goes | ended
    · exact .inl goes
    · exact .inr ⟨es, ended⟩
  · obtain ⟨still, es, waits⟩ := sp.wait h after split act other
    exact .inl ⟨still, σ, es, waits⟩

variable {earlier before : List System} {ticket : Nat}

theorem Passing.raised (p : Passing s thread (x :: earlier)) (h : Reachable b s)
    (raises : x.Raises thread ticket rest) : ∃ taken r σ es, r.ticket = ticket ∧
      s.world.waiting .graphics = taken ++ r :: rest ∧ Spills s thread taken r rest x σ es := by
  obtain ⟨σ, mem, activation, count, saved, below, failing, stack⟩ := raises
  obtain ⟨a, es, now, _, moment⟩ := p.moment h
  have ledger := (p.latest h).ledger
  have stage := moment.stage σ mem [.running ticket,
    .batch thread activation rest count] saved .target below stack
  -- While a call runs, no call of the pass is destroyed.
  have spared : ∀ q ∈ s.world.waiting .graphics, ∀ e ∈ es, e.destroys q.ticket = false := by
    have above : ∀ f ∈ [Frame.running ticket, .batch thread activation rest count], f ∈ x.frames :=
      fun f hf => List.mem_flatMap.mpr ⟨σ, mem, by rw [stack]; simp at hf ⊢; tauto⟩
    have acc := (stage.accounted above (.passBegan thread :: s.world.journal)).resolve_right fun
      ⟨_, bare, _⟩ => by
      cases bare (.running ticket) List.mem_cons_self
    intro q hq e he
    cases destroyed : e.destroys q.ticket with
    | false => rfl
    | true =>
      have gone : 1 ≤ x.world.tally (Event.destroys q.ticket) := by
        rw [World.tally, moment.journal]
        exact List.countP_pos_iff.mpr ⟨e, List.mem_append_left _ he, destroyed⟩
      have none := ledger.none_destroyed (moment.journal ▸ acc q hq)
      omega
  obtain ⟨fault, raised⟩ := Option.isSome_iff_exists.mp failing
  rw [raised] at stage
  generalize frames : [Frame.running ticket, .batch thread activation rest count] = up at stage
  cases stage with
  | @calling _ on _ _ taken left r _ split told =>
    cases on with
    | cons f on =>
      have lengths := congrArg List.length frames
      simp at lengths
    | nil =>
      obtain ⟨same, rfl, rfl, rfl⟩ : ticket = r.ticket ∧ activation = _ ∧ rest = left ∧ count = _ := by
        simpa using frames
      refine ⟨taken, r, σ, es, same.symm, split, mem, failing, moment.journal, _, saved, below,
        same ▸ stack, .call ?_⟩
      rw [account_eq_story spared, told]
  | lost bare =>
    subst frames
    cases bare (.running ticket) List.mem_cons_self

theorem Passing.spills (p : Passing s thread (x :: earlier)) (h : Reachable b s)
    (split : s.world.waiting .graphics = taken ++ r :: rest) (later : y :: before <:+ x :: earlier)
    (start : ∃ σ es, Spills s thread taken r rest y σ es) : ∃ σ es, Spills s thread taken r rest x σ es := by
  generalize same : x :: earlier = moments at p
  induction p generalizing x earlier with
  | begins m closed opened =>
    cases same
    obtain ⟨rfl, _⟩ := List.cons.inj ((List.suffix_cons_iff.mp later).resolve_right (by simp))
    exact start
  | @goes x z between p m opened ih =>
    cases same
    rcases List.suffix_cons_iff.mp later with here | before
    · obtain ⟨rfl, _⟩ := List.cons.inj here
      exact start
    · obtain ⟨σ, es, sp⟩ := ih before rfl
      rcases sp.next (p.latest h) split m with ⟨_, goes⟩ | ⟨es, ended, _⟩
      · exact goes
      · rw [ended] at opened
        cases opened

theorem Spills.ends {t : System} (sp : Spills s thread taken r rest x σ es) (h : Reachable b s)
    (p : Passing s thread (x :: earlier)) (split : s.world.waiting .graphics = taken ++ r :: rest)
    (m : Move x t) (closed : openPass t.world.journal = none) :
    ∃ es, SpilledPass s x t thread taken r rest es := by
  have reached := p.latest h
  have after := reached.move m
  rcases sp.next reached split m with ⟨still, _⟩ | ⟨es, journal, told⟩
  · rw [p.openPass, closed] at still
    cases still
  · have idle := idle_of_account told
    obtain ⟨a, result, es', now, was, ending⟩ := p.ending h m closed
    obtain ⟨ended, same⟩ := List.cons.inj (journal.symm.trans ending.journal)
    obtain rfl : es = es' := List.append_cancel_right same
    cases ended
    have kept : now = a := by
      cases ending.outcome with
      | lost => rfl
      | broken drew read resize pending story =>
        cases idle (.targetRead true) (mem_of_told story (by simp))
    have gated := after.gated
    have hosted : t.world.host.isSome = true := by
      have some := congrArg Option.isSome ending.adapter
      simpa using some
    obtain ⟨g, shared⟩ := Option.isSome_iff_exists.mp (gated.shared hosted)
    have shut : g.gate.allowed = false := by
      rw [gated.gate g shared, closed]
      rfl
    have owner : g.affinity.owner = some thread :=
      (gated.owner g shared).trans (m.captured_kept reached (reached.gated.bound thread p.openPass))
    refine ⟨es, journal, told, idle, ?_, ending.leaves, ?_, g, shared, owner, congrArg Gate.mk shut, ?_⟩
    · intro q hq other started
      have gone : .destroyed q.ticket q.label ∈ es :=
        mem_of_account told (List.mem_append_right _ (List.mem_cons_of_mem _ (List.mem_map_of_mem hq)))
      have destroyed : 1 ≤ t.world.tally (Event.destroys q.ticket) := by
        rw [World.tally, journal]
        exact List.countP_pos_iff.mpr ⟨_, List.mem_cons_of_mem _ (List.mem_append_left _ gone),
          by simp [Event.destroys]⟩
      have begun := World.one_le_starts started
      have balance := after.ledger.balance q.ticket
      have once := after.ledger.once q.ticket
      omega
    · rw [World.adapter?, World.adapter?, ending.adapter, was, kept]
    · intro other
      simp [Graphics.allows, shut]

/-- If a call raises out of a pass, the calls before it have run to their ends in push order, it was
started, and those after it are destroyed in order and never start. The renderer is not called. After the
pass the adapter is unchanged, with debouncer, settings in force and pending settings; the queue holds the
calls pushed by other threads since the pass began, graphics calls are allowed to no thread, and the thread
of the pass owns the context. For any calls and any interleaving, such a pass can end. -/
theorem raising_call_spills_the_rest (h : Reachable b s) (p : Passing s thread (y :: before))
    (raises : y.Raises thread ticket rest) :
    ((s.world.waiting .graphics).map Runnable.ticket).Sublist (pushes .graphics s.world.journal) ∧
    (∃ x earlier t, Passing s thread (x :: earlier) ∧ y :: before <:+ x :: earlier ∧ Move x t ∧
      openPass t.world.journal = none) ∧
    ∃ taken r, r.ticket = ticket ∧ s.world.waiting .graphics = taken ++ r :: rest ∧
      ∀ x earlier t, Passing s thread (x :: earlier) → y :: before <:+ x :: earlier → Move x t →
        openPass t.world.journal = none →
        (∃ es, SpilledPass s x t thread taken r rest es) ∧
        (∃ calls, PassPushes s thread (x :: earlier) calls) ∧
        ∀ calls, PassPushes s thread (x :: earlier) calls → t.world.waiting .graphics = calls := by
  refine ⟨h.ledger.lined .graphics, ?_, ?_⟩
  · obtain ⟨later, x, t, pass, suffix, last, closed⟩ := p.can_end h
    exact ⟨x, later, t, pass, suffix, last, closed⟩
  · obtain ⟨taken, r, σ, es, same, split, sp⟩ := p.raised h raises
    refine ⟨taken, r, same, split, fun x earlier t pass later m closed => ?_⟩
    obtain ⟨τ, es, now⟩ := pass.spills h split later ⟨σ, es, sp⟩
    exact ⟨now.ends h pass split m closed, pass.joined, fun calls joined => joined.left h m closed⟩

end

def Machine.sampleSpilled : Machine :=
  let first := (Request.push none .done).carryOut Machine.sample.world 5
  let second := (Request.push none (.act (.raise "lost") .done)).carryOut first.world 5
  let third := (Request.push (some "late") .done).carryOut second.world 5
  Request.render.begin third.world 0

theorem reachable_sampleSpilled : Reachable .standard Machine.sampleSpilled.alone := by
  have first := reachable_sample.alone_carryOut rfl (.push none .done) 5
  have second := first.alone_carryOut (by decide) (.push none (.act (.raise "lost") .done)) 5
  have third := second.alone_carryOut (by decide) (.push (some "late") .done) 5
  exact third.alone_begin (by decide) .render 0

theorem raising_call_spills_the_rest_sample :
    Reachable .standard Machine.sampleSpilled.alone ∧
      ∃ (before earlier : List System) (x t : System) (es : List Event) (calls : List Runnable),
        Passing Machine.sampleSpilled.alone 0 ((Machine.sampleSpilled.step.runFor 5).alone :: before) ∧
        Passing Machine.sampleSpilled.alone 0 (x :: earlier) ∧ Move x t ∧
        t.world.journal = .passEnded none :: (es ++ .passBegan 0 :: Machine.sampleSpilled.world.journal) ∧
        account (Machine.sampleSpilled.world.waiting .graphics) es
          = [.started 0 0, .finished 0, .started 1 0, .destroyed 2 (some "late")] ∧
        t.world.adapter? = Machine.sampleSpilled.world.adapter? ∧
        PassPushes Machine.sampleSpilled.alone 0 (x :: earlier) calls ∧ t.world.waiting .graphics = calls := by
  obtain ⟨before, p⟩ := Machine.sampleSpilled.passes_alone 0 5 (by decide) (by decide)
  have raises : (Machine.sampleSpilled.step.runFor 5).alone.Raises 0 1 [⟨2, some "late", .done⟩] :=
    ⟨_, List.mem_cons_self, 3, 3, false, [], by decide, by decide⟩
  obtain ⟨_, ⟨x, earlier, t, pass, later, m, closed⟩, taken, r, _, split, ends⟩ :=
    raising_call_spills_the_rest reachable_sampleSpilled p raises
  obtain ⟨⟨es, spilled⟩, ⟨calls, joined⟩, left⟩ := ends x earlier t pass later m closed
  have waits : Machine.sampleSpilled.alone.world.waiting .graphics = [⟨0, none, .done⟩] ++
      ⟨1, none, .act (.raise "lost") .done⟩ :: [⟨2, some "late", .done⟩] := by decide
  obtain ⟨first, second⟩ := List.append_inj' (waits.symm.trans split) rfl
  obtain ⟨rfl, _⟩ := List.cons.inj second
  have told := spilled.told
  rw [← first] at told
  exact ⟨reachable_sampleSpilled, before, earlier, x, t, es, calls, p, pass, m, spilled.journal, told,
    spilled.adapter, joined, left calls joined⟩

end FrameHost
