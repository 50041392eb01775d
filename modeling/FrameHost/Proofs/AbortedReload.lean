import FrameHost.Proofs.AppliedSettings

/-!
The requests left by a pass that is aborted. A pass consumes its requests before it calls the renderer, and
nothing restores them: if the reload raises, the requests are lost and the settings in force are unchanged.
-/
namespace FrameHost

theorem Adapter.target_after (a : Adapter) (current : Resolution) :
    (a.update current).2.resize.target = if a.settling then a.resize.target else none := by
  rw [a.update_resize]
  cases target : a.resize.target with
  | none => simp [Debouncer.tick_idle target, target]
  | some size =>
    by_cases more : 1 < a.resize.frames
    · simp [Debouncer.tick_settling target more, settling, target, more]
    · simp [Debouncer.tick_last target more, settling, target, more]

structure Adapter.Keeps (a now : Adapter) : Prop where
  pending : now.pending = a.pending
  target : now.resize.target = a.resize.target
  settings : now.settings = a.settings

/-- No request is pending, and the settings in force are unchanged. -/
structure Adapter.Drops (a now : Adapter) : Prop where
  pending : now.pending = none
  target : now.resize.target = none
  settings : now.settings = a.settings

section
variable {b : AdapterOptions} {s x t : System} {thread : Nat} {earlier : List System}

/-- A pass keeps its requests until it reads a target, and while a resize settles. A pass whose reload
raises consumes them and puts nothing into force. The settings of a reload that returned are in force,
however the pass ends. -/
theorem requests_after_pass (h : Reachable b s) (p : Passing s thread (x :: earlier)) (m : Move x t)
    (closed : openPass t.world.journal = none) :
    ∃ a now result es, s.world.adapter? = some a ∧ t.world.adapter? = some now ∧
      t.world.journal = .passEnded result :: (es ++ .passBegan thread :: s.world.journal) ∧
      (.targetRead true ∉ es → now = a) ∧
      (a.settling = true → a.Keeps now) ∧
      (∀ settings size, .reloaded settings size ∈ es → .renderCalled ∉ es →
        result = none ∧ a.Drops now) ∧
      ∀ settings size, .reloaded settings size ∈ es → .renderCalled ∈ es →
        now.settings = settings ∧ now.pending = none ∧ now.resize.target = none := by
  obtain ⟨a, result, es, now, was, ending, _, passEffect⟩ := p.passEffect h m closed
  refine ⟨a, now, result, es, was, ending.adapter, ending.journal, ?_⟩
  have owed {current : Resolution} {settings : Settings} {size : Resolution}
      (due : a.due current = some ⟨settings, size⟩) : a.settling = false := by
    cases holds : a.settling with
    | false => rfl
    | true => simp [Adapter.due_of_settling holds] at due
  cases passEffect with
  | kept unread unloaded =>
    exact ⟨fun _ => rfl, fun _ => ⟨rfl, rfl, rfl⟩, fun settings size told => absurd told (unloaded _ _),
      fun settings size told => absurd told (unloaded _ _)⟩
  | @drew current _ read looked _ loads called =>
    refine ⟨fun unread => absurd looked unread, fun holds => ⟨?_, ?_, ?_⟩,
      fun _ _ _ uncalled => absurd called uncalled, fun settings size told _ => ?_⟩
    · simp [Adapter.loaded, Adapter.pending_after, holds]
    · simp [Adapter.loaded, Adapter.target_after, holds]
    · simp [Adapter.loaded, Adapter.due_of_settling holds]
    · have due := (loads settings size).mp told
      simp [Adapter.loaded, Adapter.pending_after, Adapter.target_after, owed due, due]
  | @broken current read looked _ loads uncalled =>
    refine ⟨fun unread => absurd looked unread, fun holds => ⟨?_, ?_, a.update_settings _⟩,
      fun settings size told _ => ⟨rfl, ?_, ?_, a.update_settings _⟩,
      fun _ _ _ called => absurd called uncalled⟩
    · simp [Adapter.pending_after, holds]
    · simp [Adapter.target_after, holds]
    · simp [Adapter.pending_after, owed ((loads settings size).mp told)]
    · simp [Adapter.target_after, owed ((loads settings size).mp told)]

end

def Machine.sampleBroken : Machine :=
  let hooked := (Request.act (.nest (.install .reload) (.act (.raise "lost") .done) .done)).carryOut
    Machine.sample.world 0
  let configured := (Request.adapter (.config ⟨⟨.auto, 30, .ofNat 1⟩, 1⟩)).carryOut hooked.world 0
  let resized := (Request.adapter (.resize 800 600)).carryOut configured.world 0
  Request.render.begin resized.world 0

theorem reachable_sampleBroken : Reachable .standard Machine.sampleBroken.alone := by
  have hooked := reachable_sample.alone_carryOut rfl
    (.act (.nest (.install .reload) (.act (.raise "lost") .done) .done)) 0
  have configured := hooked.alone_carryOut (by decide)
    (.adapter (.config ⟨⟨.auto, 30, .ofNat 1⟩, 1⟩)) 0
  have resized := configured.alone_carryOut (by decide) (.adapter (.resize 800 600)) 0
  exact resized.alone_begin (by decide) .render 0

theorem passing_sampleBroken :
    ∃ earlier, Passing Machine.sampleBroken.alone 0
      ((Machine.sampleBroken.step.runFor 3).alone :: earlier) :=
  Machine.sampleBroken.passes_alone 0 3 (by decide) (by decide)

theorem journal_sampleBroken :
    ∃ es, (Machine.sampleBroken.step.runFor 3).step.world.journal
        = .passEnded none :: (es ++ .passBegan 0 :: Machine.sampleBroken.world.journal) ∧
      .renderCalled ∉ es ∧ .reloaded ⟨.auto, 30, .ofNat 1⟩ (.ofNat 800 600) ∈ es := by
  have journal : (Machine.sampleBroken.step.runFor 3).step.world.journal
      = .passEnded none ::
        (((Machine.sampleBroken.step.runFor 3).step.world.journal.drop 1).take 5 ++
          .passBegan 0 :: Machine.sampleBroken.world.journal) := by decide
  exact ⟨_, journal, by decide, by decide⟩

theorem adapter_sampleBroken :
    Machine.sampleBroken.world.adapter?
        = some ⟨⟨1, 1, some (.ofNat 800 600)⟩, .standard, some ⟨.auto, 30, .ofNat 1⟩⟩ ∧
      (Machine.sampleBroken.step.runFor 3).step.world.adapter?
        = some ⟨⟨1, 0, none⟩, .standard, none⟩ := by decide

theorem requests_dropped_sample :
    Reachable .standard Machine.sampleBroken.alone ∧
      ∃ (earlier : List System) (a now : Adapter) (es : List Event),
        Passing Machine.sampleBroken.alone 0
          ((Machine.sampleBroken.step.runFor 3).alone :: earlier) ∧
        (Machine.sampleBroken.step.runFor 3).step.world.journal
          = .passEnded none :: (es ++ .passBegan 0 :: Machine.sampleBroken.world.journal) ∧
        Machine.sampleBroken.world.adapter? = some a ∧ a.pending = some ⟨.auto, 30, .ofNat 1⟩ ∧
        (Machine.sampleBroken.step.runFor 3).step.world.adapter? = some now ∧ a.Drops now := by
  obtain ⟨earlier, p⟩ := passing_sampleBroken
  obtain ⟨es, written, uncalled, told⟩ := journal_sampleBroken
  obtain ⟨before, _⟩ := adapter_sampleBroken
  obtain ⟨a, now, result, es', was, is, journal, _, _, dropped, _⟩ :=
    requests_after_pass reachable_sampleBroken p
      (t := (Machine.sampleBroken.step.runFor 3).step.alone) (.turn [] _ [] .step) (by decide)
  obtain ⟨_, same⟩ := List.cons.inj (written.symm.trans journal)
  obtain rfl : es = es' := List.append_cancel_right same
  obtain ⟨rfl, drops⟩ := dropped _ _ told uncalled
  obtain rfl := Option.some.inj (was.symm.trans before)
  exact ⟨reachable_sampleBroken, earlier, _, now, es, p, journal, was, rfl, is, drops⟩

theorem aborted_reload_keeps_no_requests :
    ¬ ∀ (b : AdapterOptions) (s x t : System) (thread : Nat) (earlier : List System)
      (a now : Adapter) (es : List Event),
      Reachable b s → Passing s thread (x :: earlier) → Move x t →
      s.world.adapter? = some a → t.world.adapter? = some now →
      t.world.journal = .passEnded none :: (es ++ .passBegan thread :: s.world.journal) →
      (∀ settings size, .reloaded settings size ∈ es → .renderCalled ∉ es) → a.Keeps now := by
  intro keeps
  obtain ⟨earlier, p⟩ := passing_sampleBroken
  obtain ⟨es, journal, uncalled, _⟩ := journal_sampleBroken
  obtain ⟨was, is⟩ := adapter_sampleBroken
  have kept := keeps .standard Machine.sampleBroken.alone
    (Machine.sampleBroken.step.runFor 3).alone (Machine.sampleBroken.step.runFor 3).step.alone 0 earlier
    _ _ es reachable_sampleBroken p (.turn [] _ [] .step) was is journal fun _ _ _ => uncalled
  cases kept.pending

end FrameHost
