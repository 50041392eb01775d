import FrameHost.Proofs.Choices
import FrameHost.Proofs.Reloads
import FrameHost.Proofs.Tickets
import Mathlib.Data.List.Perm.Basic

/-!
Runs with some render passes left out. A pass on the graphics thread that finds neither calls nor a target
has no effect on later or concurrent turns, except for ticket numbers: all other turns are possible without
it and give the same results.
-/
namespace FrameHost

def Event.isSkip : Event → Bool
  | passBegan _ | began .graphics _ [] | ended _ 0 | targetRead false | log .noRenderTarget
  | passEnded (some false) => true
  | _ => false

/-- The choices of a run and the events of each turn, latest first. -/
inductive Chosen (s : System) : List Choice → List (List Event) → System → Prop where
  | here : Chosen s [] [] s
  | goes {x y : System} {choices : List Choice} {told : List (List Event)} {c : Choice} {es : List Event}
      (run : Chosen s choices told x) (m : x.Takes c y) (news : y.world.journal = es ++ x.world.journal) :
      Chosen s (c :: choices) (es :: told) y

def System.Off (x : System) (c : Choice) (thread : Nat) : Prop :=
  ∀ σ f below, x.strands[c.place]? = some σ → σ.stack = f :: below → f.thread? ≠ some thread

/-- A run without the turns of some render passes. Each of these passes begins on the graphics thread, finds
neither calls nor a target and returns; while one is under way, at the place and on the thread given, no
other turn is on its thread. -/
inductive OmittingRun (s : System) : Option (Nat × Nat) → List Choice → List (List Event) → System → Prop where
  | here : OmittingRun s none [] [] s
  | goes {out : Option (Nat × Nat)} {x y : System} {choices : List Choice} {told : List (List Event)}
      {c : Choice} {es : List Event} (run : OmittingRun s out choices told x) (m : x.Takes c y)
      (news : y.world.journal = es ++ x.world.journal)
      (apart : ∀ place thread, out = some (place, thread) → c.place ≠ place ∧ x.Off c thread) :
      OmittingRun s out (c :: choices) (es :: told) y
  | calls {x y : System} {choices : List Choice} {told : List (List Event)} {place thread : Nat}
      (run : OmittingRun s none choices told x) (m : x.Takes ⟨place, some (.render, thread)⟩ y)
      (owner : captured x.world.journal = some thread) : OmittingRun s (some (place, thread)) choices told y
  | skips {x y : System} {choices : List Choice} {told : List (List Event)} {place thread : Nat}
      {es : List Event} (run : OmittingRun s (some (place, thread)) choices told x)
      (m : x.Takes ⟨place, none⟩ y) (news : y.world.journal = es ++ x.world.journal)
      (blank : ∀ e ∈ es, e.isSkip = true) : OmittingRun s (some (place, thread)) choices told y
  | returns {x : System} {choices : List Choice} {told : List (List Event)} {place thread : Nat} {σ : Strand}
      (run : OmittingRun s (some (place, thread)) choices told x) (here : x.strands[place]? = some σ)
      (idle : σ.stack = []) : OmittingRun s none choices told x

/-- The worlds differ at most in journals and tickets, and in the gate as mapped by `γ`. -/
def World.UpToTickets (γ : Gate → Gate) (w v : World) : Prop :=
  World.seen γ { w with journal := [] } = World.seen id { v with journal := [] }

def Strand.UpToTickets (σ τ : Strand) : Prop := σ.nameless = τ.nameless ∨ σ.stack = [] ∧ τ.stack = []

structure Machine.UpToTickets (γ : Gate → Gate) (w v : World) (m n : Machine) : Prop where
  news : ∃ es ds, m.world.journal = es ++ w.journal ∧ n.world.journal = ds ++ v.journal ∧
    ds.map Event.nameless = es.map Event.nameless
  world : m.world.UpToTickets γ n.world
  strand : m.strand.UpToTickets n.strand

inductive Strand.Skips (thread : Nat) : (Gate → Gate) → Strand → Prop where
  | waits (answer : Answer) : Skips thread id ⟨none, answer, [.enter thread]⟩
  | calls (answer : Answer) (activation : Nat) :
      Skips thread (fun _ => .closed) ⟨none, answer,
      [.batch thread activation [] 0, .pass thread false .target]⟩
  | target (answer : Answer) : Skips thread (fun _ => .closed) ⟨none, answer, [.pass thread false .target]⟩
  | done {σ : Strand} (idle : σ.stack = []) : Skips thread id σ

/-- `y` is `x` without the omitted pass under way. -/
structure System.Beside (out : Option (Nat × Nat)) (γ : Gate → Gate) (x y : System) : Prop where
  world : x.world.UpToTickets γ y.world
  length : y.strands.length = x.strands.length
  strands : ∀ i σ τ, x.strands[i]? = some σ → y.strands[i]? = some τ → (∀ thread, out ≠ some (i, thread)) →
    σ.UpToTickets τ
  skips : ∀ place thread, out = some (place, thread) → captured x.world.journal = some thread ∧
    ∃ σ τ, x.strands[place]? = some σ ∧ y.strands[place]? = some τ ∧ σ.Skips thread γ ∧ τ.stack = []
  whole : out = none → γ = id

section
variable {γ : Gate → Gate} {w v : World} {σ τ : Strand} {m n : Machine} {others rest : List Frame}
    {begins : Option (Request × Nat)}

theorem Strand.UpToTickets.stack (h : σ.UpToTickets τ) (f : Frame) (hf : f ∈ τ.stack) :
    ∃ g ∈ σ.stack, g.holdsHost = f.holdsHost := by
  rcases h with same | ⟨_, idle⟩
  · have mem : f.nameless ∈ σ.nameless.stack := same ▸ List.mem_map_of_mem hf
    obtain ⟨g, hg, alike⟩ := List.mem_map.mp mem
    exact ⟨g, hg, by rw [← g.holdsHost_nameless, alike, f.holdsHost_nameless]⟩
  · rw [idle] at hf
    cases hf

theorem Strand.UpToTickets.idle (h : σ.UpToTickets τ) (idle : σ.stack = []) : τ.stack = [] := by
  rcases h with same | ⟨_, rest⟩
  · have none := congrArg Strand.stack same
    simpa [Strand.nameless, idle] using none.symm
  · exact rest

theorem Machine.upToTickets_of (w v : World) (same : m.seen γ = n.seen id) :
    Machine.UpToTickets γ w v (m.since ⟨w.journal, []⟩) (n.since ⟨v.journal, []⟩) := by
  obtain ⟨world, fault, answer, stack⟩ := Machine.mk.inj same
  refine ⟨⟨m.world.journal, n.world.journal, rfl, rfl, (congrArg World.journal world).symm⟩, ?_, .inl ?_⟩
  · exact congrArg (fun u : World => { u with journal := [] }) world
  · simp [Strand.nameless, Machine.strand, Machine.since, fault, answer, stack]

theorem Strand.upToTickets_takes (world : w.UpToTickets γ v) (upToTickets : σ.UpToTickets τ)
    (ignoresGate : γ = id ∨ ∀ f below, σ.stack = f :: below → f.IgnoresGate w)
    (hostless : γ = id ∨ ∀ r thread, begins = some (r, thread) → r.needsHost = false)
    (free : ∀ f ∈ rest, ∃ g ∈ others, g.holdsHost = f.holdsHost) (h : σ.Takes w others begins m) :
    ∃ n, τ.Takes v rest begins n ∧ Machine.UpToTickets γ w v m n := by
  let w' : World := { w with journal := [] }
  let v' : World := { v with journal := [] }
  have same : w'.seen γ = v'.seen id := world
  cases h with
  | step =>
    refine ⟨_, .step, ?_⟩
    rcases upToTickets with names | ⟨atRest, idle⟩
    · have early : (σ.on w').step.seen γ = (τ.on v').step.seen id := by
        rw [σ.step_seen w' γ ignoresGate, τ.step_seen v' id (.inl rfl), same, names]
      have later := Machine.upToTickets_of w v early
      rw [← Strand.step_since w' ⟨w.journal, []⟩ σ (.inl rfl),
        ← Strand.step_since v' ⟨v.journal, []⟩ τ (.inl rfl)] at later
      exact later
    · have still {ρ : Strand} {u : World} (rest : ρ.stack = []) : (ρ.on u).step = ρ.on u := by
        simp [Machine.step, Strand.on, rest]
      rw [still atRest, still idle]
      exact ⟨⟨[], [], rfl, rfl, rfl⟩, world, .inr ⟨atRest, idle⟩⟩
  | begin r thread idle free' =>
    refine ⟨_, .begin r thread (upToTickets.idle idle) fun needs f hf => ?_, ?_⟩
    · obtain ⟨g, hg, holds⟩ := free f hf
      rw [← holds]
      exact free' needs g hg
    · have unhosted : γ = id ∨ r.needsHost = false := hostless.imp_right fun h => h r thread rfl
      have early : (r.begin w' thread).seen γ = (r.begin v' thread).seen id := by
        rw [r.begin_seen w' γ thread unhosted, r.begin_seen v' id thread (.inl rfl), same]
      have later := Machine.upToTickets_of w v early
      rw [← Request.begin_since w' ⟨w.journal, []⟩ r thread,
        ← Request.begin_since v' ⟨v.journal, []⟩ r thread] at later
      exact later

end

section
variable {b : AdapterOptions} {x x' y : System} {out : Option (Nat × Nat)} {γ : Gate → Gate} {c : Choice}
    {σ : Strand}

theorem Strand.step_alone (w : World) (f : Frame) (answer : Answer) :
    (Strand.on ⟨none, answer, [f]⟩ w).step = f.advance w answer := by
  simp [Machine.step, Strand.on]

theorem frames_at {i : Nat} (here : x.strands[i]? = some σ) :
    (σ.stack ++ framesOf (x.strands.eraseIdx i)).Perm x.frames := by
  obtain ⟨bound, rfl⟩ := List.getElem?_eq_some_iff.mp here
  exact (List.getElem_cons_eraseIdx_perm bound).flatMap_right Strand.stack

theorem Reachable.apart {i : Nat} (h : Reachable b x) (here : x.strands[i]? = some σ) (has : σ.HasHost) :
    ∀ f ∈ framesOf (x.strands.eraseIdx i), f.holdsHost = false := by
  have all := h.sole σ (List.mem_of_getElem? here) has
  rw [← (frames_at here).countP_eq, List.countP_append] at all
  have none : (framesOf (x.strands.eraseIdx i)).countP Frame.holdsHost = 0 := by omega
  simpa using List.countP_eq_zero.mp none

theorem Gated.enters {w : World} {thread : Nat} {others : List Frame} {es : List Event}
    (gated : Gated w (.enter thread :: others)) (owner : captured w.journal = some thread)
    (news : (w.enterPass thread).world.journal = es ++ w.journal) (blank : ∀ e ∈ es, e.isSkip = true) :
    (w.enterPass thread).strand.Skips thread (fun _ => .closed) ∧
      ∀ v, w.UpToTickets id v → (w.enterPass thread).world.UpToTickets (fun _ => .closed) v := by
  have hosted : w.host.isSome = true := gated.hosted (.enter thread) List.mem_cons_self rfl
  obtain ⟨g, shared⟩ := Option.isSome_iff_exists.mp (gated.shared hosted)
  have owns : g.affinity.owner = some thread := (gated.owner g shared).trans owner
  have closed : g.gate.allowed = false := by simp [gated.gate g shared, gated.closed]
  have mine : (g.affinity.bind thread).isCurrent thread = true := by simp [Affinity.isCurrent, owns]
  rw [w.enterPass_eq thread shared mine] at news ⊢
  obtain ⟨⟨first⟩, ⟨allowed⟩, ⟨calls⟩⟩ := g
  obtain rfl : first = some thread := owns
  obtain rfl : allowed = false := closed
  cases calls with
  | nil =>
    refine ⟨.calls _ _, fun v upToTickets => Eq.trans ?_ upToTickets⟩
    simp [World.seen, shared, Graphics.seen, World.drain, Machine.proceed, World.record, World.ticketed,
      Affinity.bind, CallQueue.nameless, CallQueue.empty, Gate.closed]
  | cons r rest =>
    -- Starting calls is logged, and an omitted pass writes no such record.
    have told : es = [.log (.runningCalls (r :: rest).length),
        .began .graphics w.tickets ((r :: rest).map Runnable.ticket), .passBegan thread] :=
      List.append_cancel_right (news.symm.trans rfl)
    cases blank (.log (.runningCalls (r :: rest).length)) (by simp [told])

theorem World.readTarget_skips {w : World} {thread : Nat} {es : List Event}
    (news : (w.readTarget thread false).world.journal = es ++ w.journal) (blank : ∀ e ∈ es, e.isSkip = true) :
    (w.readTarget thread false).strand.Skips thread id ∧
      ∀ v, w.UpToTickets (fun _ => .closed) v → (w.readTarget thread false).world.UpToTickets id v := by
  cases present : w.renderer.hasTarget with
  | true =>
    obtain ⟨_, ds, read⟩ := w.readTarget_reads thread false
    rw [present] at read
    have told : .targetRead true ∈ es := by
      have same := List.append_cancel_right (news.symm.trans (read.trans (List.append_cons ..)))
      simp [same]
    cases blank _ told
  | false =>
    rw [World.readTarget_absent thread false present]
    refine ⟨.done rfl, fun v upToTickets => Eq.trans ?_ upToTickets⟩
    cases shared : w.graphics <;>
      simp [World.seen, shared, Graphics.seen, World.endPass, Machine.answering, World.leaveGate, World.record,
        World.log, Gate.leave, Gate.closed]

namespace System.Beside

theorem seen (B : x.Beside out γ y) : γ = id ∨ ∃ place thread ρ, out = some (place, thread) ∧
    captured x.world.journal = some thread ∧ x.strands[place]? = some ρ ∧ ρ.HasHost := by
  cases omittingRun : out with
  | none => exact .inl (B.whole omittingRun)
  | some p =>
    obtain ⟨place, thread⟩ := p
    obtain ⟨owner, ρ, τ, here, _, skips, _⟩ := B.skips place thread omittingRun
    cases skips with
    | waits => exact .inl rfl
    | done => exact .inl rfl
    | calls =>
      exact .inr ⟨place, thread, _, rfl, owner, here, _,
        List.mem_cons_of_mem _ List.mem_cons_self, rfl⟩
    | target => exact .inr ⟨place, thread, _, rfl, owner, here, _, List.mem_cons_self, rfl⟩

theorem ignoresGate (B : x.Beside out γ y) (h : Reachable b x) (here : x.strands[c.place]? = some σ)
    (apart : ∀ place thread, out = some (place, thread) → c.place ≠ place ∧ x.Off c thread) :
    γ = id ∨ ∀ f below, σ.stack = f :: below → f.IgnoresGate x.world := by
  refine B.seen.imp_right ?_
  rintro ⟨place, thread, ρ, omittingRun, owner, there, has⟩ f below stack
  obtain ⟨other, off⟩ := apart place thread omittingRun
  have mem : σ ∈ x.strands.eraseIdx place := List.mem_eraseIdx_iff_getElem?.mpr ⟨c.place, other, here⟩
  have hostless : f.holdsHost = false := by
    refine h.apart there has f (List.mem_flatMap.mpr ⟨σ, mem, ?_⟩)
    rw [stack]
    exact List.mem_cons_self
  refine ⟨hostless, fun own runs g shared => ?_⟩
  have foreign : thread ≠ own := by
    rintro rfl
    exact off σ f below here stack runs
  have owns := h.gated.owner g shared
  simp [Graphics.inContext, Affinity.isCurrent, owns, owner, foreign]

theorem hostless (B : x.Beside out γ y) {m : Machine}
    (apart : ∀ place thread, out = some (place, thread) → c.place ≠ place)
    (turn : σ.Takes x.world (framesOf (x.strands.eraseIdx c.place)) c.begins m) :
    γ = id ∨ ∀ r thread, c.begins = some (r, thread) → r.needsHost = false := by
  refine B.seen.imp_right ?_
  rintro ⟨place, thread, ρ, omittingRun, _, there, f, hf, holds⟩ r own begins
  rw [begins] at turn
  cases turn with
  | begin _ _ idle free =>
    cases needs : r.needsHost with
    | false => rfl
    | true =>
      have mem : ρ ∈ x.strands.eraseIdx c.place :=
        List.mem_eraseIdx_iff_getElem?.mpr ⟨place, (apart place thread omittingRun).symm, there⟩
      have none := free needs f (List.mem_flatMap.mpr ⟨ρ, mem, hf⟩)
      rw [holds] at none
      cases none

theorem frames (B : x.Beside out γ y) (place : Nat) (f : Frame)
    (hf : f ∈ framesOf (y.strands.eraseIdx place)) :
    ∃ g ∈ framesOf (x.strands.eraseIdx place), g.holdsHost = f.holdsHost := by
  obtain ⟨τ, hτ, mem⟩ := List.mem_flatMap.mp hf
  obtain ⟨i, other, there⟩ := List.mem_eraseIdx_iff_getElem?.mp hτ
  obtain ⟨bound, _⟩ := List.getElem?_eq_some_iff.mp there
  have here := List.getElem?_eq_getElem (B.length ▸ bound)
  have taking (thread : Nat) : out ≠ some (i, thread) := by
    intro omittingRun
    obtain ⟨_, _, ρ, _, same, _, idle⟩ := B.skips i thread omittingRun
    obtain rfl : τ = ρ := Option.some.inj (there.symm.trans same)
    rw [idle] at mem
    cases mem
  obtain ⟨g, hg, holds⟩ := (B.strands i _ τ here there taking).stack f mem
  exact ⟨g, List.mem_flatMap.mpr ⟨_, List.mem_eraseIdx_iff_getElem?.mpr ⟨i, other, here⟩, hg⟩, holds⟩

/-- A turn beside an omitted pass is possible without the pass. -/
theorem goes (B : x.Beside out γ y) (h : Reachable b x) (m : x.Takes c x')
    (apart : ∀ place thread, out = some (place, thread) → c.place ≠ place ∧ x.Off c thread) :
    ∃ y' es ds, y.Takes c y' ∧ x'.world.journal = es ++ x.world.journal ∧
      y'.world.journal = ds ++ y.world.journal ∧ ds.map Event.nameless = es.map Event.nameless ∧
      x'.Beside out γ y' := by
  have kept (thread : Nat) (owner : captured x.world.journal = some thread) :
      captured x'.world.journal = some thread := m.move.captured_kept h owner
  obtain ⟨σ, k, here, turn, rfl⟩ := m.at
  obtain ⟨bound, _⟩ := List.getElem?_eq_some_iff.mp here
  have there := List.getElem?_eq_getElem (B.length ▸ bound)
  have upToTickets := B.strands c.place σ _ here there fun thread omittingRun =>
    (apart _ thread omittingRun).1 rfl
  obtain ⟨n, takes, after⟩ := Strand.upToTickets_takes B.world upToTickets (B.ignoresGate h here apart)
    (B.hostless (fun place thread omittingRun => (apart place thread omittingRun).1) turn)
    (B.frames c.place) turn
  obtain ⟨es, ds, news, mine, same⟩ := after.news
  refine ⟨_, es, ds, System.takes_at there takes, news, mine, same, after.world, ?_, ?_, ?_, B.whole⟩
  · simp [B.length]
  · intro i ρ τ old new taking
    by_cases place : i = c.place
    · subst place
      rw [List.getElem?_set_self bound] at old
      rw [List.getElem?_set_self (B.length ▸ bound)] at new
      cases old
      cases new
      exact after.strand
    · rw [List.getElem?_set_ne (Ne.symm place)] at old new
      exact B.strands i ρ τ old new taking
  · intro place thread omittingRun
    obtain ⟨owner, ρ, τ, old, new, skips, idle⟩ := B.skips place thread omittingRun
    have other := (apart place thread omittingRun).1
    refine ⟨kept thread owner, ρ, τ, ?_, ?_, skips, idle⟩
    · rw [List.getElem?_set_ne other, old]
    · rw [List.getElem?_set_ne other, new]

theorem calls {place thread : Nat} (B : x.Beside none γ y) (m : x.Takes ⟨place, some (.render, thread)⟩ x')
    (owner : captured x.world.journal = some thread) :
    x'.world.journal = x.world.journal ∧ x'.Beside (some (place, thread)) id y := by
  obtain ⟨σ, k, here, turn, rfl⟩ := m.at
  obtain ⟨bound, _⟩ := List.getElem?_eq_some_iff.mp here
  have there := List.getElem?_eq_getElem (B.length ▸ bound)
  obtain rfl := B.whole rfl
  cases turn with
  | begin _ _ idle =>
    have called : (Request.render.begin x.world thread).world = x.world ∧
        (Request.render.begin x.world thread).strand.Skips thread id := by
      unfold Request.begin Request.ofHost
      cases x.world.host with
      | none => exact ⟨rfl, .done rfl⟩
      | some h => exact ⟨rfl, .waits _⟩
    obtain ⟨still, skips⟩ := called
    rw [still]
    refine ⟨rfl, B.world, by simp [B.length], ?_, ?_, by simp⟩
    · intro i ρ τ old new taking
      have other : place ≠ i := fun same => taking thread (by rw [same])
      rw [List.getElem?_set_ne other] at old
      exact B.strands i ρ τ old new (by simp)
    · rintro _ _ ⟨⟩
      exact ⟨owner, _, _, List.getElem?_set_self bound, there, skips,
        (B.strands place σ _ here there (by simp)).idle idle⟩

theorem skips_on {place thread : Nat} {es : List Event} (B : x.Beside (some (place, thread)) γ y)
    (h : Reachable b x) (m : x.Takes ⟨place, none⟩ x') (news : x'.world.journal = es ++ x.world.journal)
    (blank : ∀ e ∈ es, e.isSkip = true) : ∃ δ, x'.Beside (some (place, thread)) δ y := by
  obtain ⟨owner, ρ, τ, old, new, skips, idle⟩ := B.skips place thread rfl
  have kept : captured x'.world.journal = some thread := m.move.captured_kept h owner
  obtain ⟨σ, k, here, turn, rfl⟩ := m.at
  obtain rfl : ρ = σ := Option.some.inj (old.symm.trans here)
  obtain ⟨bound, _⟩ := List.getElem?_eq_some_iff.mp here
  cases turn with
  | step =>
    have next (δ : Gate → Gate) (after : (ρ.on x.world).step.strand.Skips thread δ)
        (world : (ρ.on x.world).step.world.UpToTickets δ y.world) :
        ∃ δ, Beside (some (place, thread)) δ
          ⟨(ρ.on x.world).step.world, x.strands.set place (ρ.on x.world).step.strand⟩ y := by
      refine ⟨δ, world, by simp [B.length], ?_, ?_, by simp⟩
      · intro i φ ψ was is taking
        have other : place ≠ i := fun same => taking thread (by rw [same])
        rw [List.getElem?_set_ne other] at was
        exact B.strands i φ ψ was is taking
      · rintro _ _ ⟨⟩
        exact ⟨kept, _, τ, List.getElem?_set_self bound, new, after, idle⟩
    have gated := h.gated.perm (frames_at here).symm
    cases skips with
    | waits answer =>
      rw [Strand.step_alone] at news next ⊢
      obtain ⟨after, world⟩ := Gated.enters gated owner news blank
      exact next _ after (world _ B.world)
    | calls answer activation => exact next _ (.target _) B.world
    | target answer =>
      rw [Strand.step_alone] at news next ⊢
      obtain ⟨after, world⟩ := World.readTarget_skips news blank
      exact next _ after (world _ B.world)
    | done rest =>
      have still : (ρ.on x.world).step = ρ.on x.world := by simp [Machine.step, Strand.on, rest]
      refine next id ?_ ?_
      · rw [still]
        exact .done rest
      · rw [still]
        exact B.world

theorem returns {place thread : Nat} (B : x.Beside (some (place, thread)) γ y)
    (here : x.strands[place]? = some σ)
    (idle : σ.stack = []) : x.Beside none id y := by
  obtain ⟨_, ρ, τ, old, new, skips, rest⟩ := B.skips place thread rfl
  obtain rfl : ρ = σ := Option.some.inj (old.symm.trans here)
  cases skips with
  | waits => cases idle
  | calls => cases idle
  | target => cases idle
  | done =>
    refine ⟨B.world, B.length, ?_, by simp, fun _ => rfl⟩
    intro i φ ψ was is _
    by_cases same : place = i
    · subst same
      obtain rfl := Option.some.inj (was.symm.trans here)
      obtain rfl := Option.some.inj (is.symm.trans new)
      exact .inr ⟨idle, rest⟩
    · exact B.strands i φ ψ was is (by simp [same])

end System.Beside

end

section
variable {b : AdapterOptions} {s x : System} {out : Option (Nat × Nat)} {choices : List Choice}
    {told : List (List Event)}

theorem OmittingRun.reachable (r : OmittingRun s out choices told x) (h : Reachable b s) : Reachable b x := by
  induction r with
  | here => exact h
  | goes _ m _ _ ih => exact ih.move m.move
  | calls _ m _ ih => exact ih.move m.move
  | skips _ m _ _ ih => exact ih.move m.move
  | returns _ _ _ ih => exact ih

theorem Event.isReload_of_isSkip {e : Event} (h : e.isSkip = true) : e.isReload = false := by
  cases e <;> first | rfl | cases h

theorem reloads_nameless (es : List Event) :
    (es.map Event.nameless).filter Event.isReload = es.filter Event.isReload := by
  induction es with
  | nil => rfl
  | cons e es ih => cases e <;> simpa [Event.nameless, Event.isReload, List.filter_cons] using ih

theorem reloads_skipped {es : List Event} (blank : ∀ e ∈ es, e.isSkip = true) :
    es.filter Event.isReload = [] := by
  refine List.filter_eq_nil_iff.mpr fun e he => ?_
  have none : e.isReload = false := Event.isReload_of_isSkip (blank e he)
  simp [none]

/-- A run without the omitted passes is a run. -/
theorem OmittingRun.beside (r : OmittingRun s out choices told x) (h : Reachable b s) :
    ∃ γ others y, Chosen s choices others y ∧ x.Beside out γ y ∧
      others.map (List.map Event.nameless) = told.map (List.map Event.nameless) ∧
      y.world.journal.filter Event.isReload = x.world.journal.filter Event.isReload := by
  induction r with
  | here => exact ⟨id, [], s, .here, ⟨rfl, rfl, fun _ _ _ a b _ =>
      .inl (by rw [Option.some.inj (a.symm.trans b)]), by simp, fun _ => rfl⟩, rfl, rfl⟩
  | @goes out x x' choices told c es run m news apart ih =>
    obtain ⟨γ, others, y, chosen, beside, same, reloads⟩ := ih
    obtain ⟨y', fs, ds, takes, wrote, mine, alike, next⟩ := beside.goes (run.reachable h) m apart
    obtain rfl : es = fs := List.append_cancel_right (news.symm.trans wrote)
    refine ⟨γ, ds :: others, y', chosen.goes takes mine, next, ?_, ?_⟩
    · rw [List.map_cons, List.map_cons, alike, same]
    · rw [mine, wrote, List.filter_append, List.filter_append, reloads, ← reloads_nameless ds, alike,
        reloads_nameless]
  | calls run m owner ih =>
    obtain ⟨γ, others, y, chosen, beside, same, reloads⟩ := ih
    obtain ⟨still, next⟩ := beside.calls m owner
    exact ⟨id, others, y, chosen, next, same, by rw [still, reloads]⟩
  | skips run m news blank ih =>
    obtain ⟨γ, others, y, chosen, beside, same, reloads⟩ := ih
    obtain ⟨δ, next⟩ := beside.skips_on (run.reachable h) m news blank
    exact ⟨δ, others, y, chosen, next, same,
      by rw [news, List.filter_append, reloads_skipped blank, reloads]; rfl⟩
  | returns run here idle ih =>
    obtain ⟨γ, others, y, chosen, beside, same, reloads⟩ := ih
    exact ⟨id, others, y, chosen, beside.returns here idle, same, reloads⟩

end

end FrameHost
