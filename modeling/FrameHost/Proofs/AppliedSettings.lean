import FrameHost.Proofs.InForce

/-!
The settings requested from a host. They are pending until a pass reads its target while no resize settles;
that pass reloads the renderer with the settings requested last, unless equal settings are in force. This
holds while no reload raises; calls and renders may raise.
-/
namespace FrameHost

/-- The settings requested last, or the settings of the builder. -/
def lastApplied (chosen : Settings) : List Event → Settings
  | [] => chosen
  | .requested r :: older => r.settings?.getD (lastApplied chosen older)
  | _ :: older => lastApplied chosen older

def lastLoaded (chosen : Settings) : List Event → Settings
  | [] => chosen
  | .reloaded settings _ :: _ => settings
  | _ :: older => lastLoaded chosen older

def Strand.reloadRaised (σ : Strand) : Bool :=
  match σ.fault, σ.stack with
  | some _, .pass _ _ (.loaded _) :: _ => true
  | _, _ => false

def System.NoReloadRaised (s : System) : Prop := ∀ σ ∈ s.strands, σ.reloadRaised = false

instance (s : System) : Decidable s.NoReloadRaised :=
  inferInstanceAs (Decidable (∀ σ ∈ s.strands, σ.reloadRaised = false))

/-- The systems reached from a newly built host while no reload raises. -/
inductive Steady (b : AdapterOptions) : System → Prop where
  | built {w v : World} {kind : HostKind} {panel : Panel} (strands : Nat) (bare : w.Bare)
      (h : w.build kind panel b = .ok v) : Steady b ⟨v, List.replicate strands .idle⟩
  | move {s t : System} (h : Steady b s) (spared : s.NoReloadRaised) (m : Move s t) : Steady b t

def Adapter.settling (a : Adapter) : Bool := a.resize.target.isSome && decide (1 < a.resize.frames)

/-- The effect of a turn on the settings: none, a request, the consumption of the pending settings by a
pass, or the return of a reload. -/
inductive SettingsMove (a now : Adapter) (s t : System) : Prop where
  | keeps (settings : now.settings = a.settings) (pending : now.pending = a.pending)
  | asked {r : AdapterRequest} {v : Settings} (new : List Event) (asks : r.settings? = some v)
      (written : t.world.journal = new ++ s.world.journal) (told : .requested r ∈ new)
      (settings : now.settings = a.settings) (pending : now.pending = some v)
  | consumed {σ : Strand} {thread : Nat} {below : List Frame} (new : List Event)
      (drained : σ ∈ s.strands) (stack : σ.stack = .pass thread false .target :: below)
      (calm : σ.fault = none) (written : t.world.journal = new ++ s.world.journal)
      (found : .targetRead true ∈ new) (settled : a.settling = false)
      (settings : now.settings = a.settings) (pending : now.pending = none)
  | loaded {σ : Strand} {thread : Nat} {v : Settings} {below : List Frame}
      (returns : σ ∈ s.strands) (stack : σ.stack = .pass thread false (.loaded v) :: below)
      (calm : σ.fault = none) (settings : now.settings = v) (pending : now.pending = a.pending)

theorem Steady.reachable {b : AdapterOptions} {s : System} (h : Steady b s) : Reachable b s := by
  induction h with
  | built strands bare h => exact .built strands bare h
  | move _ _ m ih => exact ih.move m

theorem applied_append {es : List Event} (h : ∀ e ∈ es, ∀ r, e ≠ .requested r) (chosen : Settings)
    (older : List Event) : lastApplied chosen (es ++ older) = lastApplied chosen older := by
  induction es with
  | nil => rfl
  | cons e es ih =>
    have rest := ih fun x hx => h x (List.mem_cons_of_mem e hx)
    have head := h e List.mem_cons_self
    cases e <;> first | exact rest | exact absurd rfl (head _)

theorem loaded_append {es : List Event} (h : ∀ e ∈ es, ∀ settings size, e ≠ .reloaded settings size)
    (chosen : Settings) (older : List Event) :
    lastLoaded chosen (es ++ older) = lastLoaded chosen older := by
  induction es with
  | nil => rfl
  | cons e es ih =>
    have rest := ih fun x hx => h x (List.mem_cons_of_mem e hx)
    have head := h e List.mem_cons_self
    cases e <;> first | exact rest | exact absurd rfl (head _ _)

theorem Event.ne_requested_of_isChore {e : Event} (h : e.isChore = true) (r : AdapterRequest) :
    e ≠ .requested r := by
  rintro rfl
  cases h

theorem Event.ne_reloaded_of_isChore {e : Event} (h : e.isChore = true) (settings : Settings)
    (size : Resolution) : e ≠ .reloaded settings size := by
  rintro rfl
  cases h

theorem applied_chores {es : List Event} (h : ∀ e ∈ es, e.isChore = true) (chosen : Settings)
    (older : List Event) : lastApplied chosen (es ++ older) = lastApplied chosen older :=
  applied_append (fun e he => Event.ne_requested_of_isChore (h e he)) chosen older

theorem loaded_chores {es : List Event} (h : ∀ e ∈ es, e.isChore = true) (chosen : Settings)
    (older : List Event) : lastLoaded chosen (es ++ older) = lastLoaded chosen older :=
  loaded_append (fun e he => Event.ne_reloaded_of_isChore (h e he)) chosen older

theorem World.Adds.settings {w v : World} (h : w.Adds Event.isChore v) (chosen : Settings) :
    lastApplied chosen v.journal = lastApplied chosen w.journal ∧
      lastLoaded chosen v.journal = lastLoaded chosen w.journal := by
  obtain ⟨es, journal, chores⟩ := h
  rw [journal]
  exact ⟨applied_chores chores chosen _, loaded_chores chores chosen _⟩

namespace Adapter

variable {a : Adapter} {applied : Settings}

theorem pending_after (a : Adapter) (current : Resolution) :
    (a.update current).2.pending = if a.settling then a.pending else none := a.update_pending current

theorem due_of_settling {current : Resolution} (settling : a.settling = true) :
    a.due current = none := if_pos settling

def loadedBy (a : Adapter) (current : Resolution) : Settings :=
  ((a.due current).map Reload.settings).getD a.settings

theorem loadedBy_settled (current : Resolution) (settled : a.settling = false)
    (pending : ∀ v, a.pending = some v → v = applied)
    (carried : a.pending = none → a.settings = applied ∨ applied.equals a.settings = true) :
    a.loadedBy current = applied ∨
      a.loadedBy current = a.settings ∧ applied.equals a.settings = true := by
  have free : ¬ (a.resize.target.isSome && decide (1 < a.resize.frames)) = true := by
    simpa [settling] using settled
  have unchanged (same : a.changedSettings = none) : a.loadedBy current = a.settings := by
    unfold loadedBy due
    rw [if_neg free, same]
    split <;> rfl
  cases waiting : a.pending with
  | none =>
    have kept := unchanged (by simp [changedSettings, waiting])
    rcases carried waiting with same | equal
    · exact .inl (kept.trans same)
    · exact .inr ⟨kept, equal⟩
  | some v =>
    obtain rfl : v = applied := pending v waiting
    cases equal : v.equals a.settings with
    | true => exact .inr ⟨unchanged (by simp [changedSettings, waiting, equal]), rfl⟩
    | false =>
      have changed : a.changedSettings = some v := by simp [changedSettings, waiting, equal]
      refine .inl ?_
      unfold loadedBy due
      rw [if_neg free, changed]
      rfl

end Adapter

/-- Pending settings are the ones requested last; if none are pending, the renderer was loaded with those or
with equal ones. -/
structure Accounts (chosen : Settings) (w : World) : Prop where
  pending : ∀ a v, w.adapter? = some a → a.pending = some v → v = lastApplied chosen w.journal
  carried : ∀ a, w.adapter? = some a → a.pending = none →
    lastLoaded chosen w.journal = lastApplied chosen w.journal ∨
      (lastApplied chosen w.journal).equals (lastLoaded chosen w.journal) = true
  loaded : lastLoaded chosen w.journal
    = (phaseOf w.journal).loading?.getD (inForce chosen w.journal)

section
variable {chosen : Settings} {w v : World} {others popped : List Frame} {fault : Option Fault}
  {n : Machine} {thread : Nat} {saved : Bool} {phase : Phase}

theorem Accounts.same (h : Accounts chosen w)
    (kept : ∀ now, v.adapter? = some now → ∃ a, w.adapter? = some a ∧ now.pending = a.pending)
    (applied : lastApplied chosen v.journal = lastApplied chosen w.journal)
    (loaded : lastLoaded chosen v.journal = lastLoaded chosen w.journal)
    (settled : lastLoaded chosen w.journal
      = (phaseOf v.journal).loading?.getD (inForce chosen v.journal)) : Accounts chosen v := by
  refine ⟨?_, ?_, loaded.trans settled⟩
  · intro now x is waiting
    obtain ⟨a, was, pending⟩ := kept now is
    rw [applied]
    exact h.pending a x was (pending ▸ waiting)
  · intro now is none
    obtain ⟨a, was, pending⟩ := kept now is
    rw [applied, loaded]
    exact h.carried a was (pending ▸ none)

theorem Accounts.chores (h : Accounts chosen w) (adapter : v.adapter? = w.adapter?)
    (chores : w.Adds Event.isChore v) : Accounts chosen v := by
  obtain ⟨phase, _, force⟩ := phaseKept chores
  obtain ⟨applied, loaded⟩ := chores.settings chosen
  refine h.same (fun now is => ⟨now, adapter ▸ is, rfl⟩) applied loaded ?_
  rw [phase, force]
  exact h.loaded

theorem Accounts.ends (h : Accounts chosen w) (adapter : v.adapter? = w.adapter?)
    (still : (phaseOf w.journal).loading? = none) (es : List Event)
    (journal : v.journal = es ++ w.journal) (ended : phaseOf v.journal = .target)
    (phaseKept : inForce chosen v.journal = inForce chosen w.journal)
    (untold : ∀ e ∈ es, (∀ r, e ≠ .requested r) ∧ ∀ settings size, e ≠ .reloaded settings size) :
    Accounts chosen v := by
  have settled := h.loaded
  rw [still] at settled
  refine h.same (fun now is => ⟨now, adapter ▸ is, rfl⟩) ?_ ?_ ?_
  · rw [journal, applied_append fun e he => (untold e he).1]
  · rw [journal, loaded_append fun e he => (untold e he).2]
  · rw [ended, phaseKept]
    exact settled

theorem Accounts.reads {a now : Adapter} {current : Resolution} (h : Accounts chosen w)
    (was : w.adapter? = some a) (settled : a.settling = false) (is : v.adapter? = some now)
    (updated : now = (a.update current).2)
    (before : a.settings = lastLoaded chosen w.journal)
    (applied : lastApplied chosen v.journal = lastApplied chosen w.journal)
    (loaded : lastLoaded chosen v.journal = a.loadedBy current)
    (settles : lastLoaded chosen v.journal
      = (phaseOf v.journal).loading?.getD (inForce chosen v.journal)) : Accounts chosen v := by
  have none : now.pending = none := by simp [updated, Adapter.pending_after, settled]
  refine ⟨?_, ?_, settles⟩
  · intro now' x is' waiting
    cases is.symm.trans is'
    simp [none] at waiting
  · intro now' is' _
    rw [applied, loaded]
    rcases Adapter.loadedBy_settled current settled (h.pending a · was)
        (fun idle => before ▸ h.carried a was idle) with same | ⟨kept, equal⟩
    · exact .inl same
    · exact .inr (kept ▸ equal)

theorem Accounts.asks {a : Adapter} {u : World} (h : Accounts chosen w) (r : AdapterRequest)
    (before : w.Adds Event.isChore u) (after : (u.record (.requested r)).Adds Event.isChore v)
    (was : w.adapter? = some a)
    (now : ∃ resize, v.adapter? = some ⟨resize, a.settings, r.settings?.or a.pending⟩) :
    Accounts chosen v := by
  obtain ⟨phase, _, force⟩ := phaseKept before
  obtain ⟨phase', _, force'⟩ := phaseKept after
  obtain ⟨applied, loaded⟩ := before.settings chosen
  obtain ⟨applied', loaded'⟩ := after.settings chosen
  obtain ⟨resize, now⟩ := now
  have asked : lastApplied chosen v.journal
      = r.settings?.getD (lastApplied chosen w.journal) := by
    rw [applied', ← applied]
    rfl
  have told : lastLoaded chosen v.journal = lastLoaded chosen w.journal := loaded'.trans loaded
  refine ⟨?_, ?_, ?_⟩
  · intro a' x is waiting
    cases now.symm.trans is
    rw [asked]
    cases asks : r.settings? with
    | none =>
      rw [asks] at waiting
      exact h.pending a x was waiting
    | some y =>
      rw [asks] at waiting
      exact (Option.some.inj waiting).symm
  · intro a' is none
    cases now.symm.trans is
    rw [asked, told]
    cases asks : r.settings? with
    | none =>
      rw [asks] at none
      exact h.carried a was none
    | some y =>
      rw [asks] at none
      cases none
  · rw [told, phase', force']
    have settled := h.loaded
    rw [← phase, ← force] at settled
    exact settled

theorem Accounts.draws {a : Adapter} {current : Resolution} {logs : List Event} (h : Accounts chosen w)
    (still : phaseOf w.journal = .target) (settings : a.settings = inForce chosen w.journal)
    (chores : ∀ e ∈ logs, e.isChore = true) (was : w.adapter? = some a)
    (idle : (a.update current).1.reload = none)
    (journal : v.journal = .renderCalled :: (logs ++ .targetRead true :: w.journal))
    (now : v.adapter? = some (a.update current).2) : Accounts chosen v := by
  have settled := h.loaded
  rw [still] at settled
  have applied : lastApplied chosen v.journal = lastApplied chosen w.journal := by
    rw [journal]
    exact applied_chores chores chosen (.targetRead true :: w.journal)
  have loaded : lastLoaded chosen v.journal = lastLoaded chosen w.journal := by
    rw [journal]
    exact loaded_chores chores chosen (.targetRead true :: w.journal)
  have force : inForce chosen v.journal = inForce chosen w.journal := by
    obtain ⟨phase, _, settings⟩ := chores_keep chores (.targetRead true :: w.journal)
    rw [journal, inForce, phase, settings]
    rfl
  have settles : lastLoaded chosen w.journal
      = (phaseOf v.journal).loading?.getD (inForce chosen v.journal) := by
    rw [force, journal]
    exact settled
  cases holds : a.settling with
  | true =>
    refine h.same ?_ applied loaded settles
    intro now' is
    cases now.symm.trans is
    exact ⟨a, was, by simp [Adapter.pending_after, holds]⟩
  | false =>
    have before : a.settings = lastLoaded chosen w.journal := settings.trans settled.symm
    refine h.reads was holds now rfl before applied ?_ (loaded.trans settles)
    rw [a.update_reload] at idle
    rw [loaded, ← before, Adapter.loadedBy, idle]
    rfl

theorem AdapterMove.accounts (m : AdapterMove w others fault popped n)
    (g : Gated w (popped ++ others)) (p : Phased chosen w (popped ++ others))
    (spared : ∀ thread saved v, popped = [.pass thread saved (.loaded v)] → fault = none)
    (h : Accounts chosen w) : Accounts chosen n.world := by
  have still {thread : Nat} {saved : Bool} {phase : Phase}
      (mem : .pass thread saved phase ∈ popped ++ others) (idle : phase.loading? = none) :
      (phaseOf w.journal).loading? = none := by
    rw [p.phase thread saved phase mem]
    exact idle
  cases m with
  | aside chores adapter unguarded => exact h.chores adapter chores
  | departs chores gone empty free =>
    obtain ⟨phase, _, force⟩ := phaseKept chores
    obtain ⟨applied, loaded⟩ := chores.settings chosen
    refine h.same (by simp [gone]) applied loaded ?_
    rw [phase, force]
    exact h.loaded
  | asks r before after was now => exact h.asks r before after was now
  | begins chores adapter laid =>
    obtain ⟨phase, _, force⟩ := phaseKept chores
    obtain ⟨applied, loaded⟩ := chores.settings chosen
    have idle : phaseOf w.journal = .target := p.idle g.closed
    have settled := h.loaded
    rw [idle] at settled
    refine h.same (fun now is => ⟨now, adapter ▸ is, rfl⟩) applied loaded ?_
    rw [phase, force]
    exact settled
  | misses journal adapter empty =>
    exact h.ends adapter (still List.mem_cons_self rfl)
      [.passEnded (some false), .log .noRenderTarget, .targetRead false] journal
      (by rw [journal]; rfl) (by rw [journal]; rfl) (by simp)
  | @draws _ thread saved a logs body chores was idle journal now laid =>
    have here := p.phase thread saved .target List.mem_cons_self
    exact h.draws here (p.settings a was) chores was idle journal now
  | @loads _ thread saved a logs r body chores was due journal now laid =>
    have settled := h.loaded
    rw [p.phase thread saved .target List.mem_cons_self] at settled
    rw [a.update_reload] at due
    have free : a.settling = false := by
      cases holds : a.settling with
      | false => rfl
      | true => simp [Adapter.due_of_settling holds] at due
    refine h.reads was free now rfl ((p.settings a was).trans settled.symm) ?_ ?_ ?_
    · rw [journal]
      exact applied_chores chores chosen (.targetRead true :: w.journal)
    · rw [journal, Adapter.loadedBy, due]
      rfl
    · rw [journal]
      rfl
  | @returns _ thread saved a settings body was journal now laid =>
    have here := p.phase thread saved (.loaded settings) List.mem_cons_self
    have settled := h.loaded
    rw [here] at settled
    refine h.same ?_ (by rw [journal]; rfl) (by rw [journal]; rfl) ?_
    · intro now' is
      cases now.symm.trans is
      exact ⟨a, was, rfl⟩
    · rw [journal, inForce, here]
      exact settled
  | presents told journal adapter empty =>
    refine h.ends adapter (still List.mem_cons_self rfl) [.passEnded _, _] journal
      (by rw [journal]; rfl) ?_ ?_
    · rw [journal]
      rcases told with rfl | ⟨error, rfl⟩ <;> rfl
    · rcases told with rfl | ⟨error, rfl⟩ <;> simp
  | @aborts _ thread saved phase raised journal adapter empty =>
    refine h.ends adapter (still List.mem_cons_self ?_) [.passEnded none] journal
      (by rw [journal]; rfl) (by rw [journal]; rfl) (by simp)
    cases phase with
    | loaded v => cases spared thread saved v rfl
    | _ => rfl

theorem AdapterMove.unasked (m : AdapterMove w others fault popped n)
    (g : Gated w (popped ++ others))
    (busy : openPass w.journal ≠ none ∨ openPass n.world.journal ≠ none) :
    lastApplied chosen n.world.journal = lastApplied chosen w.journal := by
  cases m with
  | aside chores => exact (chores.settings chosen).1
  | departs chores => exact (chores.settings chosen).1
  | @asks _ _ v a r before after was now empty free =>
    -- A request holds the host, so no pass is under way.
    have idle : openPass w.journal = none := g.openPass_eq_none (guards_of_passes (passes_of_free free))
    have still : openPass n.world.journal = none := by
      rw [(phaseKept after).2.1]
      exact (phaseKept before).2.1.trans idle
    rcases busy with opened | opened
    · exact absurd idle opened
    · exact absurd still opened
  | begins chores => exact (chores.settings chosen).1
  | misses journal => rw [journal]; rfl
  | draws chores was idle journal =>
    rw [journal]
    exact applied_chores chores chosen (.targetRead true :: w.journal)
  | loads chores was due journal =>
    rw [journal]
    exact applied_chores chores chosen (.targetRead true :: w.journal)
  | returns was journal => rw [journal]; rfl
  | presents told journal =>
    rw [journal]
    rcases told with rfl | ⟨error, rfl⟩ <;> rfl
  | aborts journal => rw [journal]; rfl

end

theorem World.Fresh.accounts {b : AdapterOptions} {w : World} (fresh : w.Fresh b) :
    Accounts b.settings w := by
  have chores : ∀ e ∈ w.journal, e.isChore = true := fun e he =>
    Event.isChore_of_isRemark (fresh.journal e he)
  have applied : lastApplied b.settings w.journal = b.settings := by
    simpa [lastApplied] using applied_chores chores b.settings []
  have loaded : lastLoaded b.settings w.journal = b.settings := by
    simpa [lastLoaded] using loaded_chores chores b.settings []
  refine ⟨?_, ?_, ?_⟩
  · intro a v now waiting
    cases fresh.adapter.symm.trans now
    cases waiting
  · intro _ _ _
    exact .inl (loaded.trans applied.symm)
  · have phased := fresh.phased
    rw [phased.idle (fresh.gated.openPass_eq_none rfl), loaded]
    exact phased.settings _ fresh.adapter

section
variable {b : AdapterOptions} {s x t : System} {thread : Nat} {earlier : List System}

theorem Act.spared {σ : Strand} {popped below : List Frame} {others : List Strand} {n : Machine}
    (act : Act s t σ popped below others n) (spared : s.NoReloadRaised) {saved : Bool} {v : Settings}
    (top : popped = [.pass thread saved (.loaded v)]) : σ.fault = none := by
  have calm := spared σ act.mem
  rw [Strand.reloadRaised, act.stack, top] at calm
  cases raised : σ.fault with
  | none => rfl
  | some fault => simp [raised] at calm

theorem Steady.accounts (h : Steady b s) : Accounts b.settings s.world := by
  induction h with
  | built strands bare h => exact (World.fresh_build bare h).accounts
  | @move s t steady spared m ih =>
    have reached := steady.reachable
    obtain ⟨σ, popped, below, others, n, act⟩ := m.act
    have gated := reached.gated.perm act.before
    rw [act.world]
    exact (act.effect.adapterMove gated).accounts gated (reached.phased.perm act.before)
      (fun thread saved v top => act.spared spared top) ih

theorem Steady.settings_loaded (h : Steady b s) {a : Adapter} (now : s.world.adapter? = some a)
    (free : ∀ thread saved v, .pass thread saved (.loaded v) ∉ s.frames) :
    a.settings = lastLoaded b.settings s.world.journal := by
  have phased := h.reachable.phased
  have still : (phaseOf s.world.journal).loading? = none := by
    cases opened : openPass s.world.journal with
    | none => rw [phased.idle opened]; rfl
    | some thread =>
      obtain ⟨phase, mem⟩ := mem_guards.mp ((h.reachable.gated.passes thread false).mpr ⟨opened, rfl⟩)
      rw [phased.phase thread false phase mem]
      cases phase with
      | loaded v => exact absurd mem (free thread false v)
      | _ => rfl
  rw [h.accounts.loaded, still]
  exact phased.settings a now

theorem Reachable.settingsMove (h : Reachable b s) (m : Move s t) {a now : Adapter}
    (was : s.world.adapter? = some a) (is : t.world.adapter? = some now) :
    SettingsMove a now s t := by
  obtain ⟨σ, popped, below, others, n, act⟩ := m.act
  have gated := h.gated.perm act.before
  have same (adapter : n.world.adapter? = s.world.adapter?) : SettingsMove a now s t := by
    rw [act.world, adapter, was] at is
    cases is
    exact .keeps rfl rfl
  have guard {thread : Nat} {saved : Bool} {phase : Phase}
      (top : popped = [.pass thread saved phase]) : saved = false :=
    ((gated.passes thread saved).mp (mem_guards.mpr ⟨phase, by simp [top]⟩)).2
  rw [act.world] at is
  have move := act.effect.adapterMove gated
  have mine := act.mem
  have stack := act.stack
  generalize raised : σ.fault = fault at move
  have reads {thread : Nat} {saved : Bool} {e : Event} {logs : List Event} {current : Resolution}
      (top : popped = [.pass thread saved .target]) (calm : σ.fault = none)
      (journal : n.world.journal = e :: (logs ++ .targetRead true :: s.world.journal))
      (updated : now = (a.update current).2) : SettingsMove a now s t := by
    subst updated
    cases holds : a.settling with
    | true => exact .keeps (a.update_settings _) (by simp [Adapter.pending_after, holds])
    | false =>
      obtain rfl := guard top
      rw [top] at stack
      refine .consumed (e :: (logs ++ [.targetRead true])) mine stack calm ?_ (by simp) holds
        (a.update_settings _) (by simp [Adapter.pending_after, holds])
      rw [act.world, journal]
      simp
  cases move with
  | aside chores adapter unguarded => exact same adapter
  | departs chores gone => simp [gone] at is
  | @asks _ _ v a' r before after was' now' empty free =>
    cases was.symm.trans was'
    obtain ⟨resize, now'⟩ := now'
    cases now'.symm.trans is
    cases asks : r.settings? with
    | none => exact .keeps rfl (by simp)
    | some y =>
      obtain ⟨old, journal, _⟩ := before
      obtain ⟨new, journal', _⟩ := after
      refine .asked (new ++ .requested r :: old) asks ?_ (by simp) rfl (by simp)
      rw [act.world, journal', World.record, journal, List.append_assoc]
      rfl
  | begins chores adapter laid => exact same adapter
  | misses journal adapter empty => exact same adapter
  | draws chores was' idle journal now' laid =>
    cases was.symm.trans was'
    exact reads rfl raised journal (Option.some.inj (is.symm.trans now'))
  | loads chores was' due journal now' laid =>
    cases was.symm.trans was'
    exact reads rfl raised journal (Option.some.inj (is.symm.trans now'))
  | returns was' journal now' laid =>
    cases was.symm.trans was'
    cases now'.symm.trans is
    obtain rfl := guard rfl
    exact .loaded mine stack raised rfl rfl
  | presents told journal adapter empty => exact same adapter
  | aborts journal adapter empty => exact same adapter

theorem Reachable.passless (h : Reachable b s) (closed : openPass s.world.journal = none)
    (thread : Nat) (saved : Bool) (phase : Phase) : .pass thread saved phase ∉ s.frames := by
  intro mem
  have opened := ((h.gated.passes thread saved).mp (mem_guards.mpr ⟨phase, mem⟩)).1
  simp [closed] at opened

theorem System.spared_of (unloading : ∀ thread saved v, .pass thread saved (.loaded v) ∉ s.frames) :
    s.NoReloadRaised := by
  intro σ hσ
  unfold Strand.reloadRaised
  split
  · rename_i thread saved v _ _ stack
    have mem : .pass thread saved (.loaded v) ∈ s.frames :=
      List.mem_flatMap.mpr ⟨σ, hσ, by rw [stack]; exact List.mem_cons_self⟩
    exact absurd mem (unloading thread saved v)
  · rfl

theorem Reachable.spared (h : Reachable b s) (closed : openPass s.world.journal = none) :
    s.NoReloadRaised :=
  System.spared_of fun thread saved v => h.passless closed thread saved (.loaded v)

theorem Passing.closed {moments : List System} (p : Passing s thread moments) :
    FrameHost.openPass s.world.journal = none := by
  induction p with
  | begins _ closed _ => exact closed
  | goes _ _ _ ih => exact ih

theorem Steady.passing {moments : List System} (p : Passing s thread moments) (h : Steady b s)
    (spared : ∀ y ∈ moments, y.NoReloadRaised) : ∀ y ∈ moments, Steady b y := by
  induction p with
  | begins m closed opened =>
    intro y hy
    rw [List.mem_singleton.mp hy]
    exact h.move (h.reachable.spared closed) m
  | @goes x y earlier p m opened ih =>
    have before := ih fun z hz => spared z (List.mem_cons_of_mem y hz)
    intro z hz
    rcases List.mem_cons.mp hz with rfl | old
    · exact (before x List.mem_cons_self).move (spared x (by simp)) m
    · exact before z old

theorem Move.unasked (m : Move x t) (h : Reachable b x)
    (busy : openPass x.world.journal ≠ none ∨ openPass t.world.journal ≠ none) (chosen : Settings) :
    lastApplied chosen t.world.journal = lastApplied chosen x.world.journal := by
  obtain ⟨σ, popped, below, others, n, act⟩ := m.act
  have gated := h.gated.perm act.before
  rw [act.world] at busy ⊢
  exact (act.effect.adapterMove gated).unasked gated busy

theorem Passing.unasked (p : Passing s thread (x :: earlier)) (h : Reachable b s)
    (chosen : Settings) :
    lastApplied chosen x.world.journal = lastApplied chosen s.world.journal := by
  generalize same : x :: earlier = moments at p
  induction p generalizing x earlier with
  | begins m closed opened =>
    cases same
    exact m.unasked h (.inr (by simp [opened])) chosen
  | @goes x' y before p m opened ih =>
    cases same
    exact (m.unasked (p.latest h) (.inr (by simp [opened])) chosen).trans (ih rfl)

/-- The settings after a pass: those requested last, or equal ones, if it read its target and no resize settled;
otherwise unchanged. -/
theorem Steady.pass_settles (h : Steady b s) (p : Passing s thread (x :: earlier))
    (spared : ∀ y ∈ x :: earlier, y.NoReloadRaised) (m : Move x t)
    (closed : FrameHost.openPass t.world.journal = none) :
    ∃ a now result es, s.world.adapter? = some a ∧ t.world.adapter? = some now ∧
      t.world.journal = .passEnded result :: (es ++ .passBegan thread :: s.world.journal) ∧
      (.targetRead true ∈ es → ∀ r ∈ s.world.waiting .graphics, .finished r.ticket ∈ es) ∧
      (.targetRead true ∈ es → a.settling = false → now.pending = none ∧
        (now.settings = lastApplied b.settings t.world.journal ∨ now.settings = a.settings ∧
          (lastApplied b.settings t.world.journal).equals a.settings = true)) ∧
      (.targetRead true ∉ es ∨ a.settling = true →
        now.pending = a.pending ∧ now.settings = a.settings) := by
  have reached := h.reachable
  obtain ⟨a, result, es, now, was, ending, within, passEffect⟩ := p.passEffect reached m closed
  refine ⟨a, now, result, es, was, ending.adapter, ending.journal, ?_, ?_, ?_⟩
  · intro looked r hr
    have finished (drained : ran thread (s.world.waiting .graphics)
        <+: story (s.world.waiting .graphics) es) : .finished r.ticket ∈ es := by
      obtain ⟨tail, told⟩ := drained
      exact mem_of_told told.symm (List.mem_append_left tail (mem_ran thread hr).2)
    cases passEffect with
    | kept unread => exact absurd looked unread
    | drew read looked drained => exact finished drained
    | broken read looked drained => exact finished drained
  · intro looked settled
    have pass := (p.latest reached)
    have applied : lastApplied b.settings t.world.journal = lastApplied b.settings s.world.journal :=
      (m.unasked pass (.inl (by simp [p.openPass])) b.settings).trans (p.unasked reached b.settings)
    cases passEffect with
    | kept unread => exact absurd looked unread
    | @drew current _ read =>
      have before := h.settings_loaded was fun thread saved v =>
        reached.passless p.closed thread saved _
      refine ⟨by simp [Adapter.loaded, Adapter.pending_after, settled], ?_⟩
      rw [applied]
      exact Adapter.loadedBy_settled current settled (h.accounts.pending a · was)
        fun idle => before ▸ h.accounts.carried a was idle
    | @broken current read =>
      -- Nothing was loaded, so the settings are unchanged.
      have last : Steady b t := (h.passing p spared x List.mem_cons_self).move
        (spared x List.mem_cons_self) m
      have after := last.settings_loaded ending.adapter fun thread saved v =>
        (pass.move m).passless closed thread saved _
      have none : ((a.update current).2).pending = none := by simp [Adapter.pending_after, settled]
      have carried := last.accounts.carried _ ending.adapter none
      rw [← after] at carried
      refine ⟨none, ?_⟩
      rw [← a.update_settings current]
      exact carried.imp_right fun equal => ⟨rfl, equal⟩
  · intro held
    cases passEffect with
    | kept unread => exact ⟨rfl, rfl⟩
    | drew read looked =>
      have settling := held.resolve_left (absurd looked)
      constructor
      · simp [Adapter.loaded, Adapter.pending_after, settling]
      · simp [Adapter.loaded, Adapter.due_of_settling settling]
    | broken read looked =>
      have settling := held.resolve_left (absurd looked)
      constructor
      · simp [Adapter.pending_after, settling]
      · exact a.update_settings _

/-- Pending settings are replaced only by later ones, or consumed by a pass that reads its target while no
resize settles. After such a pass none are pending, and the settings requested last are in force, or equal
ones that were in force before. The settings in force are always those the renderer was last loaded with. -/
theorem applied_settings_come_into_force (h : Steady b s) :
    (∀ a, s.world.adapter? = some a → a.settings = inForce b.settings s.world.journal ∧
      ((∀ thread saved v, .pass thread saved (.loaded v) ∉ s.frames) →
        a.settings = lastLoaded b.settings s.world.journal)) ∧
    (∀ t a now, Move s t → s.world.adapter? = some a → t.world.adapter? = some now →
      SettingsMove a now s t) ∧
    ∀ thread x earlier t, Passing s thread (x :: earlier) → (∀ y ∈ x :: earlier, y.NoReloadRaised) →
      Move x t → openPass t.world.journal = none →
      ∃ a now result es, s.world.adapter? = some a ∧ t.world.adapter? = some now ∧
        t.world.journal = .passEnded result :: (es ++ .passBegan thread :: s.world.journal) ∧
        (.targetRead true ∈ es → ∀ r ∈ s.world.waiting .graphics, .finished r.ticket ∈ es) ∧
        (.targetRead true ∈ es → a.settling = false → now.pending = none ∧
          (now.settings = lastApplied b.settings t.world.journal ∨ now.settings = a.settings ∧
            (lastApplied b.settings t.world.journal).equals a.settings = true)) ∧
        (.targetRead true ∉ es ∨ a.settling = true →
          now.pending = a.pending ∧ now.settings = a.settings) := by
  refine ⟨?_, ?_, ?_⟩
  · intro a now
    exact ⟨h.reachable.phased.settings a now, h.settings_loaded now⟩
  · intro t a now m was is
    exact h.reachable.settingsMove m was is
  · intro thread x earlier t p spared m closed
    exact h.pass_settles p spared m closed

theorem reloaded_of_phaseOf {journal : List Event} {v : Settings}
    (h : phaseOf journal = .loaded v) : ∃ size, .reloaded v size ∈ journal := by
  induction journal with
  | nil => cases h
  | cons e older ih =>
    have later (rest : phaseOf older = .loaded v) : ∃ size, .reloaded v size ∈ e :: older := by
      obtain ⟨size, mem⟩ := ih rest
      exact ⟨size, List.mem_cons_of_mem e mem⟩
    cases e with
    | reloaded settings size =>
      cases h
      exact ⟨size, List.mem_cons_self⟩
    | targetRead present =>
      cases present with
      | true => cases h
      | false => exact later h
    | _ => first | exact later h | cases h

theorem Reachable.steady (h : Reachable b s)
    (unloaded : ∀ v size, .reloaded v size ∉ s.world.journal) : Steady b s := by
  induction h with
  | built strands bare h => exact .built strands bare h
  | @move s t reached m ih =>
    have before : ∀ v size, .reloaded v size ∉ s.world.journal := by
      obtain ⟨σ, popped, below, others, n, act⟩ := m.act
      intro v size mem
      exact unloaded v size (act.world ▸ act.effect.ledgerMove.kept _ mem)
    refine (ih before).move (System.spared_of fun thread saved v mem => ?_) m
    obtain ⟨size, told⟩ := reloaded_of_phaseOf (reached.phased.phase thread saved _ mem)
    exact before v size told

theorem applied_settings_sample :
    Steady .standard Machine.sampleRender.alone ∧
      ∃ (earlier : List System) (now : Adapter),
        Passing Machine.sampleRender.alone 0
          ((Machine.sampleRender.step.runFor 8).alone :: earlier) ∧
        (Machine.sampleRender.step.runFor 8).step.world.adapter? = some now ∧
        now.pending = none ∧ now.settings = ⟨.auto, 30, .ofNat 1⟩ := by
  have steady : Steady .standard Machine.sampleRender.alone := by
    refine reachable_sampleRender.steady fun v size told => ?_
    have none : ∀ e ∈ Machine.sampleRender.alone.world.journal,
        (match e with | .reloaded .. => false | _ => true) = true := by decide
    cases none _ told
  have begins : Passing Machine.sampleRender.alone 0 [Machine.sampleRender.step.alone] :=
    .begins (.turn [] _ [] .step) (by decide) (by decide)
  obtain ⟨earlier, p, spared⟩ := begins.alone_all System.NoReloadRaised 8 (by decide) (by decide)
    (by decide)
  obtain ⟨_, _, passes⟩ := applied_settings_come_into_force steady
  obtain ⟨a, now, result, es, was, is, journal, _, settles, _⟩ :=
    passes 0 _ earlier (Machine.sampleRender.step.runFor 8).step.alone p spared
      (.turn [] _ [] .step) (by decide)
  have written : .targetRead true ∈ (Machine.sampleRender.step.runFor 8).step.world.journal := by decide
  have looked : .targetRead true ∈ es := by
    rw [show (Machine.sampleRender.step.runFor 8).step.world.journal = _ from journal] at written
    have before : .targetRead true ∉ Machine.sampleRender.alone.world.journal := by decide
    simpa [before] using written
  have found : a = ⟨⟨1, 1, some (.ofNat 800 600)⟩, .standard, some ⟨.auto, 30, .ofNat 1⟩⟩ := by
    have first : Machine.sampleRender.alone.world.adapter?
        = some ⟨⟨1, 1, some (.ofNat 800 600)⟩, .standard, some ⟨.auto, 30, .ofNat 1⟩⟩ := by decide
    exact Option.some.inj (was.symm.trans first)
  have applied : lastApplied AdapterOptions.standard.settings
      (Machine.sampleRender.step.runFor 8).step.alone.world.journal = ⟨.auto, 30, .ofNat 1⟩ := by
    decide
  obtain ⟨none, same | ⟨_, equal⟩⟩ := settles looked (by rw [found]; decide)
  · exact ⟨steady, earlier, now, p, is, none, same.trans applied⟩
  · rw [applied, found] at equal
    exact absurd equal (by decide)

end

end FrameHost
