import FrameHost.Proofs.RunnableStates
import FrameHost.Proofs.Owners
import FrameHost.Proofs.Transparency

/-!
The end of the graphics context. It exists while the host or a handle is left, and the waiting calls are
unchanged while other owners are dropped. With the last owner it ends, once per run: a warning gives the
number of waiting calls, if there are any, and they are destroyed in push order.
-/
namespace FrameHost

def Event.KeepsRunnables (calls : List Runnable) (e : Event) : Prop :=
  e.startedTicket? = none ∧ (∀ r ∈ calls, e.destroys r.ticket = false) ∧ e.isTeardown = false

structure World.ContextKept (w v : World) : Prop where
  shared : v.graphics.isSome = true
  graphics : v.graphics = w.graphics
  journal : ∃ es, v.journal = es ++ w.journal ∧ ∀ e ∈ es, e.KeepsRunnables (w.waiting .graphics)

/-- The context ends: a warning with the number of waiting calls, if there are any, then their destruction
in push order. -/
structure World.ContextReleased (w v : World) : Prop where
  graphics : v.graphics = none
  journal : ∃ es, v.journal = es ++ (destructions (w.waiting .graphics)
      ++ lossNotice .graphics (w.waiting .graphics).length ++ w.journal) ∧
    ∀ e ∈ es, e.KeepsRunnables (w.waiting .graphics)
  order : w.Lined .graphics

/-- The effect of a move on the context, by whether an owner is dropped and one is left. -/
inductive World.ContextMove (w v : World) : Prop where
  | kept (owners : w.owners ≤ v.owners) (none : w.owners = 0 → v.owners = 0)
      (graphics : v.graphics.isSome = w.graphics.isSome) (journal : w.Adds (fun e => !e.isTeardown) v)
  | contextKept (one : v.owners + 1 = w.owners) (left : 0 < v.owners) (h : w.ContextKept v)
  | contextReleased (one : w.owners = 1) (none : v.owners = 0) (h : w.ContextReleased v)

def World.Owned (w : World) : Prop := w.graphics.isSome = true ↔ 0 < w.owners

section
variable {u v w : World} {fs : List Frame}

theorem World.owners_pos_iff (w : World) : 0 < w.owners ↔ (w.host.isSome || w.handles.any id) = true := by
  have held : 0 < w.handles.count true ↔ w.handles.any id = true := by
    rw [List.count_pos_iff, List.any_eq_true]
    simp
  rw [Bool.or_eq_true, ← held, owners]
  cases w.host.isSome <;> simp [Nat.add_comm 1]

theorem World.unheld (none : w.owners = 0) : ¬(w.host.isSome || w.handles.any id) = true := by
  rw [← w.owners_pos_iff, none]
  exact Nat.lt_irrefl 0

theorem World.releaseGraphics_owned (left : 0 < w.owners) : w.releaseGraphics = w := by
  rw [releaseGraphics, if_pos (w.owners_pos_iff.mp left)]

theorem World.releaseGraphics_gone (gone : w.graphics = none) : w.releaseGraphics = w := by
  unfold releaseGraphics
  rw [gone]
  split <;> rfl

theorem World.owners_releaseGraphics (w : World) : w.releaseGraphics.owners = w.owners := by
  obtain ⟨j, g, eq⟩ := w.releaseGraphics_eq
  rw [eq]
  rfl

theorem World.DropEffects.owners (h : w.DropEffects v) : v.owners = w.owners := by
  rw [World.owners, World.owners, h.host, h.handles]

theorem World.Keeps.owners (h : w.Keeps v) : v.owners = w.owners := by
  rw [World.owners, World.owners, h.host, h.handles]

theorem World.DropEffects.keepsRunnables (h : u.DropEffects v) (ledger : Ledger w fs)
    (channel : u.channel = w.channel) :
    ∃ es, v.journal = es ++ u.journal ∧ ∀ e ∈ es, e.KeepsRunnables (w.waiting .graphics) := by
  obtain ⟨es, journal, new⟩ := h.journal
  refine ⟨es, journal, fun e he => ?_⟩
  rcases new e he with ⟨text, rfl⟩ | ⟨r, hr, rfl⟩
  · exact ⟨rfl, fun _ _ => rfl, rfl⟩
  · refine ⟨rfl, fun call waits => ?_, rfl⟩
    have accepted : r ∈ w.waiting .mainThread := by
      rw [World.waiting, channel] at hr
      exact hr
    -- No ticket is pushed to two lines.
    have differs : r.ticket ≠ call.ticket := by
      intro same
      have filed := ledger.filed .mainThread r accepted
      rw [same] at filed
      cases ledger.line_unique filed (ledger.filed .graphics call waits)
    simpa [Event.destroys] using differs

theorem World.Adds.of_keepsRunnables {calls : List Runnable} {es : List Event}
    (journal : v.journal = es ++ w.journal)
    (keepsRunnables : ∀ e ∈ es, e.KeepsRunnables calls) : w.Adds (fun e => !e.isTeardown) v :=
  ⟨es, journal, fun e he => by simp [(keepsRunnables e he).2.2]⟩

theorem World.releaseGraphics_ends (none : u.owners = 0) : u.releaseGraphics.graphics = .none := by
  rw [releaseGraphics, if_neg (World.unheld none)]
  split
  · assumption
  · obtain ⟨j, eq⟩ := World.discardCalls_eq { u with graphics := .none } _
    rw [eq]

theorem World.DropEffects.contextReleased (h : u.releaseGraphics.DropEffects v) (ledger : Ledger w fs)
    (journal : u.journal = w.journal) (graphics : u.graphics = w.graphics) (channel : u.channel = w.channel)
    (none : u.owners = 0) (shared : w.graphics.isSome = true) : w.ContextReleased v := by
  obtain ⟨g, held⟩ := Option.isSome_iff_exists.mp (graphics ▸ shared)
  have losesLine := World.losesLine_releaseGraphics (World.unheld none) held
  have same : u.waiting .graphics = w.waiting .graphics := by rw [World.waiting, World.waiting, graphics]
  have line : u.releaseGraphics.channel = w.channel := by
    obtain ⟨j, k, eq⟩ := u.releaseGraphics_eq
    rw [eq]
    exact channel
  obtain ⟨es, grown, keepsRunnables⟩ := h.keepsRunnables ledger line
  refine ⟨h.graphics.trans (World.releaseGraphics_ends none), ⟨es, ?_, keepsRunnables⟩, ledger.lined .graphics⟩
  rw [grown, losesLine.journal, same, journal]

theorem OwnerMove.contextMove (move : OwnerMove w v) (owned : w.Owned) (ledger : Ledger w fs) :
    w.ContextMove v := by
  cases move with
  | keeps h =>
    exact .kept (Nat.le_of_eq h.owners.symm) h.owners.trans h.graphics h.journal
  | gains shared same =>
    have more : v.owners = w.owners + 1 := by
      rw [same, World.owners, List.count_append, ← Nat.add_assoc]
      rfl
    have some_before := owned.mp shared
    exact .kept (by omega) (by omega) (by rw [same]) (.of_eq (by rw [same]))
  | drops u journal graphics channel fewer one dropEffects =>
    have after : v.owners = u.owners := dropEffects.owners.trans u.owners_releaseGraphics
    rcases Nat.eq_zero_or_pos u.owners with none | left
    · cases shared : w.graphics.isSome with
      | true =>
        have before := owned.mp shared
        exact .contextReleased (by omega) (by omega)
          (dropEffects.contextReleased ledger journal graphics channel none shared)
      | false =>
        -- The context has ended, so the dropped slot is empty.
        have gone : w.owners = 0 := by
          by_contra held
          rw [owned.mpr (by omega)] at shared
          cases shared
        rw [World.releaseGraphics_gone (graphics.trans (Option.isNone_iff_eq_none.mp
          (Option.isSome_eq_false_iff.mp shared)))] at dropEffects
        obtain ⟨es, grown, keepsRunnables⟩ := dropEffects.keepsRunnables ledger channel
        exact .kept (by omega) (by omega) (by rw [dropEffects.graphics, graphics])
          (.of_keepsRunnables (journal ▸ grown) keepsRunnables)
    · rw [World.releaseGraphics_owned left] at dropEffects
      obtain ⟨es, grown, keepsRunnables⟩ := dropEffects.keepsRunnables ledger channel
      have kept : v.graphics = w.graphics := dropEffects.graphics.trans graphics
      by_cases same : u.owners = w.owners
      · exact .kept (by omega) (by omega) (by rw [kept]) (.of_keepsRunnables (journal ▸ grown) keepsRunnables)
      · exact .contextKept (by omega) (by omega)
          ⟨kept ▸ owned.mpr (by omega), kept, es, journal ▸ grown, keepsRunnables⟩

theorem World.ContextMove.owned (h : w.ContextMove v) (owned : w.Owned) : v.Owned := by
  cases h with
  | kept owners none graphics journal =>
    have before : w.graphics.isSome = true ↔ 0 < w.owners := owned
    rw [World.Owned, graphics, before]
    omega
  | contextKept one left h => exact ⟨fun _ => left, fun _ => h.shared⟩
  | contextReleased one none h => simp [World.Owned, h.graphics, none]

def teardowns (journal : List Event) : List Event := journal.filter Event.isTeardown

theorem teardowns_append (es journal : List Event) :
    teardowns (es ++ journal) = teardowns es ++ teardowns journal := List.filter_append ..

theorem teardowns_none {es : List Event} (h : ∀ e ∈ es, e.isTeardown = false) : teardowns es = [] :=
  List.filter_eq_nil_iff.mpr fun e he => by simp [h e he]

theorem teardowns_destructions (rs : List Runnable) : teardowns (destructions rs) = [] := by
  apply teardowns_none
  intro e he
  obtain ⟨r, _, rfl⟩ := List.mem_map.mp (List.mem_reverse.mp he)
  rfl

theorem teardowns_lossNotice (line : Line) (count : Nat) :
    teardowns (lossNotice line count) = lossNotice line count := by
  unfold lossNotice
  split <;> rfl

theorem World.Adds.teardowns (h : w.Adds (fun e => !e.isTeardown) v) :
    teardowns v.journal = FrameHost.teardowns w.journal := by
  obtain ⟨es, journal, new⟩ := h
  rw [journal, teardowns_append, teardowns_none fun e he => by simpa using new e he, List.nil_append]

theorem World.ContextKept.teardowns (h : w.ContextKept v) :
    teardowns v.journal = FrameHost.teardowns w.journal := by
  obtain ⟨es, journal, keepsRunnables⟩ := h.journal
  exact (World.Adds.of_keepsRunnables journal keepsRunnables).teardowns

theorem World.ContextReleased.teardowns (h : w.ContextReleased v) : teardowns v.journal
    = lossNotice .graphics (w.waiting .graphics).length ++ FrameHost.teardowns w.journal := by
  obtain ⟨es, journal, keepsRunnables⟩ := h.journal
  rw [journal, teardowns_append, teardowns_none fun e he => (keepsRunnables e he).2.2, List.nil_append,
    teardowns_append, teardowns_append, teardowns_destructions, teardowns_lossNotice, List.nil_append]

end

section
variable {b : AdapterOptions} {s t : System}

theorem World.Fresh.owned {w : World} (fresh : w.Fresh b) : w.Owned ∧ 0 < w.owners := by
  have hosted : w.host.isSome = true := by
    have adapted := congrArg Option.isSome fresh.adapter
    simpa using adapted
  have left : 0 < w.owners := w.owners_pos_iff.mpr (by simp [hosted])
  exact ⟨⟨fun _ => left, fun _ => by rw [fresh.graphics]; rfl⟩, left⟩

theorem Reachable.owned (h : Reachable b s) : s.world.Owned := by
  induction h with
  | built strands bare h => exact (World.fresh_build bare h).owned.1
  | move h m ih => exact (m.ownerMove.contextMove ih h.ledger).owned ih

theorem Reachable.contextMove (h : Reachable b s) (m : Move s t) : s.world.ContextMove t.world :=
  m.ownerMove.contextMove h.owned h.ledger

theorem Reachable.handle_reaches (h : Reachable b s) {slot : Nat} (full : s.world.handles[slot]? = some true) :
    s.world.graphics.isSome = true ∧ s.world.handle? slot = s.world.graphics := by
  have held : 0 < s.world.handles.count true := List.count_pos_iff.mpr (List.mem_of_getElem? full)
  refine ⟨h.owned.mpr (Nat.lt_of_lt_of_le held (Nat.le_add_left _ _)), ?_⟩
  simp [World.handle?, full]

theorem Pushes.queued {thread : Nat} {r : Runnable} (m : Pushes s t (some (thread, r))) (h : Reachable b s)
    (elsewhere : openPass s.world.journal ≠ some thread) :
    t.world.waiting .graphics = s.world.waiting .graphics ++ [r] := by
  have closed {g : Graphics} (shared : s.world.graphics = some g) : g.allows thread = false := by
    rw [Bool.eq_false_iff]
    intro allowed
    exact elsewhere ((h.inPass_iff thread).mp ((h.allows_iff shared thread).mp allowed).2)
  generalize pushed : some (thread, r) = push at m
  cases m with
  | @step w before σ after =>
    obtain ⟨fault, answer, stack⟩ := σ
    cases stack with
    | nil => cases fault <;> cases pushed
    | cons f below =>
      cases fault with
      | some raised => cases pushed
      | none =>
        obtain ⟨⟨pusher, p⟩, pushing, same⟩ := Option.map_eq_some_iff.mp pushed.symm
        cases same
        obtain ⟨g, here, shared, posts⟩ := Frame.push?_post pushing answer
        have waits : p.world.waiting .graphics = w.waiting .graphics := by
          rw [World.waiting, World.waiting, here, shared]
        show (f.advance w answer).world.waiting .graphics = _
        rw [posts, World.waiting_post (w := p.world.ticketed) here (closed shared)]
        exact congrArg (· ++ [p.call]) waits
  | @begin w before σ after request pusher idle free =>
    cases request with
    | push label body =>
      cases hosted : w.host with
      | none => simp [Request.push?, hosted] at pushed
      | some host =>
        cases shared : w.graphics with
        | none => simp [Request.push?, shared] at pushed
        | some g =>
          simp only [Request.push?, hosted, shared, Option.isSome_some, Bool.and_self, if_true,
            Option.some.injEq, Prod.mk.injEq] at pushed
          obtain ⟨rfl, rfl⟩ := pushed
          simp only [Request.begin, Request.ofHost, hosted, shared]
          exact World.waiting_post (w := w.ticketed) shared (closed shared) _ _
    | _ => cases pushed

theorem Reachable.no_teardown (h : Reachable b s) (left : 0 < s.world.owners) :
    teardowns s.world.journal = [] := by
  induction h with
  | built strands bare h =>
    apply teardowns_none
    intro e he
    simpa using Event.isTeardown_of_isRemark ((World.fresh_build bare h).journal e he)
  | @move s t h m ih =>
    cases h.contextMove m with
    | kept owners none graphics journal =>
      rw [journal.teardowns]
      apply ih
      omega
    | contextKept one _ contextKept =>
      rw [contextKept.teardowns]
      apply ih
      omega
    | contextReleased _ none => omega

/-- If no owner is left, one earlier move dropped the last one, and no warning was written since. -/
theorem Reachable.teardown_once (h : Reachable b s) (none : s.world.owners = 0) :
    ∃ x y, Reachable b x ∧ Move x y ∧ x.world.owners = 1 ∧ y.world.owners = 0 ∧
      x.world.ContextReleased y.world ∧ y.world.journal <:+ s.world.journal ∧
      teardowns s.world.journal = lossNotice .graphics (x.world.waiting .graphics).length := by
  induction h with
  | built strands bare h =>
    exact absurd none (Nat.ne_of_gt (World.fresh_build bare h).owned.2)
  | @move s t h m ih =>
    cases h.contextMove m with
    | kept owners _ _ journal =>
      obtain ⟨x, y, reached, dropped, one, gone, contextReleased, since, warned⟩ := ih (by omega)
      refine ⟨x, y, reached, dropped, one, gone, contextReleased, ?_, journal.teardowns.trans warned⟩
      obtain ⟨es, grown, _⟩ := journal
      exact since.trans ⟨es, grown.symm⟩
    | contextKept one left => omega
    | contextReleased one _ contextReleased =>
      refine ⟨s, t, h, m, one, none, contextReleased, List.suffix_rfl, ?_⟩
      rw [contextReleased.teardowns, h.no_teardown (by omega), List.append_nil]

/-- The context exists exactly while the host or a handle is left. Until then each handle reaches it, also
without the host, and a call pushed through it waits unless it runs at once; dropping an owner that is not
the last changes no waiting call. With the last owner the waiting calls are destroyed in push order and none
is started, after a warning with their number if there are any. This happens at most once per run. -/
theorem context_ends_with_last_owner (h : Reachable b s) :
    (s.world.graphics.isSome = true ↔ 0 < s.world.owners) ∧
    (∀ slot, s.world.handles[slot]? = some true →
      s.world.graphics.isSome = true ∧ s.world.handle? slot = s.world.graphics) ∧
    (∀ t thread r, Pushes s t (some (thread, r)) → openPass s.world.journal ≠ some thread →
      t.world.waiting .graphics = s.world.waiting .graphics ++ [r]) ∧
    (∀ t, Move s t → t.world.owners < s.world.owners → t.world.owners + 1 = s.world.owners ∧
      (0 < t.world.owners → s.world.ContextKept t.world) ∧
      (t.world.owners = 0 → s.world.ContextReleased t.world)) ∧
    (0 < s.world.owners → teardowns s.world.journal = []) ∧
    (s.world.owners = 0 → ∃ x y, Reachable b x ∧ Move x y ∧ x.world.owners = 1 ∧ y.world.owners = 0 ∧
      x.world.ContextReleased y.world ∧ y.world.journal <:+ s.world.journal ∧
      teardowns s.world.journal = lossNotice .graphics (x.world.waiting .graphics).length) := by
  refine ⟨h.owned, fun _ => h.handle_reaches, fun t thread r m => m.queued h, ?_, h.no_teardown,
    h.teardown_once⟩
  intro t m fewer
  cases h.contextMove m with
  | kept owners => omega
  | contextKept one left contextKept => exact ⟨one, fun _ => contextKept, fun none => by omega⟩
  | contextReleased one none contextReleased => exact ⟨by omega, fun left => by omega, fun _ => contextReleased⟩

def Machine.sampleLastHandle : Machine :=
  let pushed := (Request.push (some "early") .done).carryOut Machine.sample.world 0
  let shared := Request.newHandle.carryOut pushed.world 0
  let fewer := (Request.dropHandle 0).carryOut shared.world 0
  let orphaned := Request.dropHost.carryOut fewer.world 0
  (Request.act (.nest (.push 1 (some "late")) .done .done)).carryOut orphaned.world 1

def Machine.sampleReleased : Machine := (Request.dropHandle 1).begin Machine.sampleLastHandle.world 0

theorem reachable_sampleLastHandle : Reachable .standard Machine.sampleLastHandle.alone := by
  have pushed := reachable_sample.alone_carryOut rfl (.push (some "early") .done) 0
  have shared := pushed.alone_carryOut (by decide) .newHandle 0
  have fewer := shared.alone_carryOut (by decide) (.dropHandle 0) 0
  have orphaned := fewer.alone_carryOut (by decide) .dropHost 0
  exact orphaned.alone_carryOut (by decide) (.act (.nest (.push 1 (some "late")) .done .done)) 1

theorem context_ended_with_two_calls :
    Reachable .standard Machine.sampleLastHandle.alone ∧ Reachable .standard Machine.sampleReleased.alone ∧
      Machine.sampleLastHandle.world.host = none ∧ Machine.sampleLastHandle.world.owners = 1 ∧
      (Machine.sampleLastHandle.world.waiting .graphics).map Runnable.ticket = [0, 1] ∧
      teardowns Machine.sampleLastHandle.world.journal = [] ∧
      Machine.sampleLastHandle.world.ContextReleased Machine.sampleReleased.world ∧
      teardowns Machine.sampleReleased.world.journal = [.log (.droppingCalls 2)] := by
  have one : Machine.sampleLastHandle.world.owners = 1 := by decide
  have none : Machine.sampleReleased.world.owners = 0 := by decide
  obtain ⟨_, _, _, drops, no_teardown, _⟩ := context_ends_with_last_owner reachable_sampleLastHandle
  have move : Move Machine.sampleLastHandle.alone Machine.sampleReleased.alone :=
    .turn [] Machine.sampleLastHandle.strand [] (.begin (.dropHandle 1) 0 (by decide) (by decide))
  have contextReleased := (drops _ move (by rw [Machine.alone, Machine.alone, none, one]; decide)).2.2 none
  have warned : teardowns Machine.sampleReleased.world.journal = [.log (.droppingCalls 2)] := by decide
  exact ⟨reachable_sampleLastHandle, reachable_sampleLastHandle.alone_begin (by decide) _ 0, by decide,
    one, by decide, no_teardown (by rw [Machine.alone, one]; decide), contextReleased, warned⟩

end

end FrameHost
