import FrameHost.Proofs.SkippedFrames

/-!
Settings requested repeatedly. A pass compares the pending settings with those in force, by value, and
reloads only if they differ. The same settings cost one reload, however often they are requested, and none
if they are in force. Settings that do not equal themselves (with a NaN) are reloaded at each request.
-/
namespace FrameHost

def Event.isResize : Event → Bool
  | requested (.resize ..) => true
  | _ => false

/-- Whether a resize is pending, where `frames` is the window of the builder. -/
def resizeWaits (frames : Nat) (journal : List Event) : Bool :=
  (lastBurst frames journal).any fun burst => decide (burst.passes < burst.window)

def brokenReloads : List Event → Nat
  | [] => 0
  | .passEnded _ :: older => brokenReloads older + (phaseOf older).loading?.isSome.toNat
  | _ :: older => brokenReloads older

/-- The settings of the reload under way, or else those in force. -/
def engaged (chosen : Settings) (journal : List Event) : Settings :=
  (phaseOf journal).loading?.getD (inForce chosen journal)

def World.pending? (w : World) : Option Settings := w.adapter?.bind Adapter.pending

/-- The effect of a turn on reloads, by its events. A reload is for pending settings that differ from those
in force, or for a resize. -/
inductive ReloadMove (b : AdapterOptions) (w v : World) : List Event → Prop where
  | rests {es : List Event} (apart : Apart es)
      (engages : engaged b.settings v.journal = engaged b.settings w.journal)
      (force : inForce b.settings v.journal = inForce b.settings w.journal ∨
        inForce b.settings v.journal = engaged b.settings w.journal)
      (fewer : ∀ p, v.pending? = some p → w.pending? = some p) : ReloadMove b w v es
  | asks {es ds : List Event} (r : AdapterRequest) (before : Apart es) (after : Apart ds)
      (idle : phaseOf v.journal = .target)
      (engages : engaged b.settings v.journal = engaged b.settings w.journal)
      (force : inForce b.settings v.journal = inForce b.settings w.journal)
      (pending : v.pending? = r.settings?.or w.pending?) : ReloadMove b w v (ds ++ .requested r :: es)
  | loads {es : List Event} (settings : Settings) (size : Resolution) (apart : Apart es)
      (idle : engaged b.settings w.journal = inForce b.settings w.journal)
      (force : inForce b.settings v.journal = inForce b.settings w.journal)
      (cause : settings = inForce b.settings w.journal ∧ resizeWaits b.frames w.journal = true ∨
        w.pending? = some settings ∧ settings.equals (inForce b.settings w.journal) = false)
      (resized : resizeWaits b.frames v.journal = false) (pending : v.pending? = none) :
      ReloadMove b w v (.reloaded settings size :: es)
  | breaks (loading : (phaseOf w.journal).loading?.isSome = true) (pending : v.pending? = w.pending?) :
      ReloadMove b w v [.passEnded none]

structure Unchanged (b : AdapterOptions) (settings : Settings) (free : Nat) (w : World) (es : List Event) :
    Prop where
  force : inForce b.settings w.journal = settings
  engages : engaged b.settings w.journal = settings
  loads : ∀ v size, .reloaded v size ∈ es → v = settings
  paid : es.countP Event.isReload + (resizeWaits b.frames w.journal).toNat ≤ es.countP Event.isResize + free

/-- A bound on the reloads while only settings equal to `v` are requested and `settings` were in force: one
for each resize, one for each aborted reload, and one for `v` until the renderer is loaded with it. -/
structure ReloadBudget (b : AdapterOptions) (v settings : Settings) (free : Nat) (w : World) (es : List Event) :
    Prop where
  alike : ∀ p, w.pending? = some p → p.equals v = true
  phase : phaseOf es = phaseOf w.journal
  paid : es.countP Event.isReload + (resizeWaits b.frames w.journal).toNat
    + (!(engaged b.settings w.journal).equals v).toNat
      ≤ es.countP Event.isResize + free + (brokenReloads es + 1)
  unchanged : v.equals settings = true → Unchanged b settings free w es

section
variable {es ds older : List Event} {chosen : Settings} {frames : Nat}

theorem engaged_idle (idle : (phaseOf older).loading? = none) :
    engaged chosen older = inForce chosen older := by
  rw [engaged, idle, Option.getD_none]

theorem phaseOf_congr (es : List Event) {k l : List Event} (same : phaseOf k = phaseOf l) :
    phaseOf (es ++ k) = phaseOf (es ++ l) := by
  induction es with
  | nil => exact same
  | cons e es ih =>
    cases e with
    | targetRead present => cases present <;> first | rfl | exact ih
    | _ => first | rfl | exact ih

theorem brokenReloads_le (es older : List Event) : brokenReloads older ≤ brokenReloads (es ++ older) := by
  induction es with
  | nil => exact Nat.le_refl _
  | cons e es ih =>
    cases e <;> first | exact ih | exact Nat.le_trans ih (Nat.le_add_right _ _)

theorem resizeWaits_cons {e : Event} (waits : resizeWaits frames (e :: older) = true) :
    e.isResize = true ∨ resizeWaits frames older = true := by
  cases e with
  | requested r =>
    cases r with
    | resize => exact .inl rfl
    | _ => exact .inr waits
  | targetRead present =>
    cases present with
    | false => exact .inr waits
    | true =>
      right
      simp only [resizeWaits, lastBurst] at waits ⊢
      cases last : lastBurst frames older with
      | none => simp [last] at waits
      | some burst =>
        have later : burst.passes + 1 < burst.window := by simpa [last] using waits
        simpa using Nat.lt_of_succ_lt later
  | _ => exact .inr waits

theorem resizeWaits_append (frames : Nat) (es older : List Event) :
    (resizeWaits frames (es ++ older)).toNat ≤ es.countP Event.isResize + (resizeWaits frames older).toNat := by
  induction es with
  | nil => simp
  | cons e es ih =>
    rw [List.cons_append, List.countP_cons]
    cases waits : resizeWaits frames (e :: (es ++ older)) with
    | false => exact Nat.zero_le _
    | true =>
      rcases resizeWaits_cons waits with new | old
      · simp only [new, if_true, Bool.toNat_true]
        omega
      · rw [old] at ih
        exact Nat.le_trans ih (by omega)

theorem balance_append (frames : Nat) (unloaded : ∀ e ∈ ds, e.isReload = false) (es older : List Event) :
    (ds ++ es).countP Event.isReload + (resizeWaits frames (ds ++ older)).toNat + es.countP Event.isResize
      ≤ es.countP Event.isReload + (resizeWaits frames older).toNat + (ds ++ es).countP Event.isResize := by
  have none : ds.countP Event.isReload = 0 := List.countP_eq_zero.mpr fun e he => by simp [unloaded e he]
  have waits := resizeWaits_append frames ds older
  rw [List.countP_append, List.countP_append, none]
  omega

theorem unresized_of_apart (apart : Apart es) : es.countP Event.isResize = 0 := by
  refine List.countP_eq_zero.mpr fun e he => ?_
  have unasked := (apart e he).2
  cases e <;> first | exact Bool.false_ne_true | cases unasked

theorem reloaded_counts (apart : Apart es) (settings : Settings) (size : Resolution) (older : List Event) :
    (Event.reloaded settings size :: es ++ older).countP Event.isReload = older.countP Event.isReload + 1 ∧
      (Event.reloaded settings size :: es ++ older).countP Event.isResize = older.countP Event.isResize := by
  have unloaded : es.countP Event.isReload = 0 :=
    List.countP_eq_zero.mpr fun e he => by simp [(apart e he).1]
  simp [List.countP_cons, unloaded, unresized_of_apart apart, Event.isReload, Event.isResize]

end

namespace Adapter

variable {a : Adapter} {current : Resolution}

/-- A reload is due for pending settings that differ, or for a resize. -/
theorem due_cause {r : Reload} (due : a.due current = some r) :
    r.settings = a.settings ∧ a.resize.target.isSome = true ∨
      a.pending = some r.settings ∧ r.settings.equals a.settings = false := by
  unfold Adapter.due at due
  split at due
  · cases due
  · split at due
    · rename_i changed
      cases due
      cases new : a.changedSettings with
      | none =>
        left
        rw [new] at changed
        refine ⟨rfl, ?_⟩
        obtain ⟨size, filtered⟩ := Option.isSome_iff_exists.mp (by simpa using changed)
        rw [(Option.filter_eq_some_iff.mp filtered).1]
        rfl
      | some v =>
        right
        obtain ⟨waits, differs⟩ := Option.filter_eq_some_iff.mp new
        exact ⟨waits, by simpa using differs⟩
    · cases due

end Adapter

section
variable {b : AdapterOptions} {s t : System}

theorem Reachable.resizeWaits_eq (h : Reachable b s) {a : Adapter} (now : s.world.adapter? = some a) :
    resizeWaits b.frames s.world.journal = a.resize.target.isSome := by
  obtain ⟨host, hosted, rfl⟩ := Option.map_eq_some_iff.mp now
  have follows := h.debouncerMatches.follows host hosted
  unfold resizeWaits
  cases last : lastBurst b.frames s.world.journal with
  | none =>
    rw [last] at follows
    have idle : host.adapter.resize.target = none := follows
    rw [idle]
    rfl
  | some burst =>
    rw [last] at follows
    by_cases early : burst.passes < burst.window
    · simp [early, (follows.running early).1]
    · simp [early, follows.idle early]

end

section
variable {b : AdapterOptions} {w v : World} {others popped : List Frame} {fault : Option Fault} {n : Machine}
    {es : List Event}

theorem World.Adds.reloadMove (chores : w.Adds Event.isChore v)
    (fewer : ∀ p, v.pending? = some p → w.pending? = some p) :
    ∃ es, v.journal = es ++ w.journal ∧ ReloadMove b w v es := by
  obtain ⟨phase, _, force⟩ := phaseKept chores
  obtain ⟨es, journal, chores⟩ := chores
  refine ⟨es, journal, .rests (apart_of_chores chores) ?_ (.inl (force _)) fewer⟩
  rw [engaged, phase, force, engaged]

theorem ReloadMove.idles (apart : Apart es)
    (before : engaged b.settings w.journal = inForce b.settings w.journal)
    (after : (phaseOf v.journal).loading? = none)
    (force : inForce b.settings v.journal = inForce b.settings w.journal)
    (fewer : ∀ p, v.pending? = some p → w.pending? = some p) : ReloadMove b w v es := by
  refine .rests apart ?_ (.inl force) fewer
  rw [engaged_idle after, force, before]

theorem ReloadMove.asked {u : World} {a : Adapter} (r : AdapterRequest) (idle : phaseOf w.journal = .target)
    (before : w.Adds Event.isChore u) (after : (u.record (.requested r)).Adds Event.isChore v)
    (was : w.adapter? = some a)
    (now : ∃ resize, v.adapter? = some ⟨resize, a.settings, r.settings?.or a.pending⟩) :
    ∃ es, v.journal = es ++ w.journal ∧ ReloadMove b w v es := by
  obtain ⟨phase, _, force⟩ := phaseKept before
  obtain ⟨phase', _, force'⟩ := phaseKept after
  obtain ⟨resize, now⟩ := now
  obtain ⟨es, first, chores⟩ := before
  obtain ⟨ds, second, others⟩ := after
  have on : phaseOf v.journal = .target := phase'.trans (phase.trans idle)
  have kept : inForce b.settings v.journal = inForce b.settings w.journal :=
    (force' _).trans (force _)
  refine ⟨ds ++ .requested r :: es, ?_, .asks r (apart_of_chores chores)
    (apart_of_chores others) on ?_ kept ?_⟩
  · rw [second, World.record, first]
    simp
  · rw [engaged, on, kept, engaged, idle]
  · simp [World.pending?, now, was]

theorem ReloadMove.drew {a : Adapter} {current : Resolution} {logs : List Event}
    (working : engaged b.settings w.journal = inForce b.settings w.journal)
    (chores : ∀ e ∈ logs, e.isChore = true) (was : w.adapter? = some a)
    (journal : v.journal = .renderCalled :: (logs ++ .targetRead true :: w.journal))
    (now : v.adapter? = some (a.update current).2) :
    ∃ es, v.journal = es ++ w.journal ∧ ReloadMove b w v es := by
  obtain ⟨phase, _, settings⟩ := chores_keep chores (.targetRead true :: w.journal)
  have force : inForce b.settings v.journal = inForce b.settings w.journal := by
    rw [journal, inForce, phase, settings]
    rfl
  refine ⟨.renderCalled :: (logs ++ [.targetRead true]), by rw [journal]; simp,
    .idles ?_ working (by rw [journal]; rfl) force ?_⟩
  · exact apart_cons rfl rfl (apart_append (apart_of_chores chores) (apart_cons rfl rfl apart_nil))
  · intro q waiting
    simp only [World.pending?, now, was, Option.bind_some, a.pending_after] at waiting ⊢
    split at waiting
    · exact waiting
    · cases waiting

theorem ReloadMove.loaded {a : Adapter} {current : Resolution} {logs : List Event} {r : Reload}
    (working : engaged b.settings w.journal = inForce b.settings w.journal)
    (settings : a.settings = inForce b.settings w.journal)
    (waits : resizeWaits b.frames w.journal = a.resize.target.isSome)
    (later : ∀ a, v.adapter? = some a → resizeWaits b.frames v.journal = a.resize.target.isSome)
    (chores : ∀ e ∈ logs, e.isChore = true) (was : w.adapter? = some a)
    (due : (a.update current).1.reload = some r)
    (journal : v.journal = .reloaded r.settings r.resolution :: (logs ++ .targetRead true :: w.journal))
    (now : v.adapter? = some (a.update current).2) :
    ∃ es, v.journal = es ++ w.journal ∧ ReloadMove b w v es := by
  rw [a.update_reload] at due
  have settled := Adapter.settled_of_due due
  have force : inForce b.settings v.journal = inForce b.settings w.journal := by
    rw [journal]
    exact (chores_keep chores (.targetRead true :: w.journal)).2.2 b.settings
  refine ⟨.reloaded r.settings r.resolution :: (logs ++ [.targetRead true]), by rw [journal]; simp,
    .loads r.settings r.resolution ?_ working force ?_ ?_ ?_⟩
  · exact apart_append (apart_of_chores chores) (apart_cons rfl rfl apart_nil)
  · rw [waits, ← settings]
    simpa [World.pending?, was] using Adapter.due_cause due
  · simp [later _ now, a.target_after, settled]
  · simp [World.pending?, now, a.pending_after, settled]

theorem AdapterMove.reloadMove (m : AdapterMove w others fault popped n) (g : Gated w (popped ++ others))
    (p : Phased b.settings w (popped ++ others))
    (waits : ∀ a, w.adapter? = some a → resizeWaits b.frames w.journal = a.resize.target.isSome)
    (later : ∀ a, n.world.adapter? = some a → resizeWaits b.frames n.world.journal = a.resize.target.isSome) :
    ∃ es, n.world.journal = es ++ w.journal ∧ ReloadMove b w n.world es := by
  have still {thread : Nat} {saved : Bool} {phase : Phase}
      (top : popped = [.pass thread saved phase]) (idle : phase.loading? = none) :
      engaged b.settings w.journal = inForce b.settings w.journal := by
    refine engaged_idle ?_
    rw [p.phase thread saved phase (by simp [top])]
    exact idle
  have same (adapter : n.world.adapter? = w.adapter?) (q : Settings) (waiting : n.world.pending? = some q) :
      w.pending? = some q := by
    rwa [World.pending?, adapter] at waiting
  cases m with
  | aside chores adapter => exact chores.reloadMove (same adapter)
  | departs chores gone => exact chores.reloadMove (by simp [World.pending?, gone])
  | asks r before after was now _ free =>
    have idle := p.idle (g.openPass_eq_none (guards_of_passes (passes_of_free free)))
    exact ReloadMove.asked r idle before after was now
  | @begins _ _ thread _ _ _ chores adapter =>
    obtain ⟨phase, _, force⟩ := phaseKept chores
    obtain ⟨es, journal, chores⟩ := chores
    have idle : engaged b.settings w.journal = inForce b.settings w.journal :=
      engaged_idle (by rw [p.idle g.closed]; rfl)
    refine ⟨es ++ [.passBegan thread], ?_, .idles ?_ idle (by rw [phase]; rfl) (force _) (same adapter)⟩
    · rw [journal, World.record, List.append_assoc]
      rfl
    · exact apart_append (apart_of_chores chores) (apart_cons rfl rfl apart_nil)
  | misses journal adapter =>
    refine ⟨[_, _, _], journal, .idles ?_ (still rfl rfl) (by rw [journal]; rfl) (by rw [journal]; rfl)
      (same adapter)⟩
    exact apart_cons rfl rfl (apart_cons rfl rfl (apart_cons rfl rfl apart_nil))
  | draws chores was _ journal now => exact ReloadMove.drew (still rfl rfl) chores was journal now
  | loads chores was due journal now =>
    exact ReloadMove.loaded (still rfl rfl) (p.settings _ was) (waits _ was) later chores was due journal now
  | @returns _ thread saved a settings _ was journal now =>
    have here := p.phase thread saved (.loaded settings) List.mem_cons_self
    have force : inForce b.settings n.world.journal = settings := by
      rw [journal, inForce, here]
      rfl
    have working : engaged b.settings w.journal = settings := by
      rw [engaged, here]
      rfl
    refine ⟨[.renderCalled], journal,
      .rests (apart_cons rfl rfl apart_nil) ?_ (.inr (force.trans working.symm)) ?_⟩
    · rw [working, engaged_idle (by rw [journal]; rfl)]
      exact force
    · simp [World.pending?, now, was, Adapter.loaded]
  | @presents _ _ _ _ e told journal adapter =>
    have force : inForce b.settings n.world.journal = inForce b.settings w.journal := by
      rw [journal]
      rcases told with rfl | ⟨error, rfl⟩ <;> rfl
    refine ⟨[_, e], journal, .idles (apart_cons rfl rfl ?_) (still rfl rfl) (by rw [journal]; rfl) force
      (same adapter)⟩
    rcases told with rfl | ⟨error, rfl⟩ <;> exact apart_cons rfl rfl apart_nil
  | aborts journal adapter =>
    cases loading : (phaseOf w.journal).loading? with
    | none =>
      exact ⟨[_], journal, .idles (apart_cons rfl rfl apart_nil) (engaged_idle loading) (by rw [journal]; rfl)
        (by rw [journal]; rfl) (same adapter)⟩
    | some settings =>
      exact ⟨[_], journal, .breaks (by rw [loading]; rfl) (by rw [World.pending?, adapter, World.pending?])⟩

end

section
variable {b : AdapterOptions} {v settings : Settings} {free : Nat} {w x : World} {es ds : List Event}

theorem Unchanged.same (c : Unchanged b settings free w es) (journal : x.journal = ds ++ w.journal)
    (unloaded : ∀ e ∈ ds, e.isReload = false) (force : inForce b.settings x.journal = settings)
    (engages : engaged b.settings x.journal = settings) : Unchanged b settings free x (ds ++ es) := by
  refine ⟨force, engages, fun v size told => ?_, ?_⟩
  · rcases List.mem_append.mp told with new | old
    · cases unloaded _ new
    · exact c.loads v size old
  · have balance := balance_append b.frames unloaded es w.journal
    have paid := c.paid
    rw [← journal] at balance
    omega

theorem Unchanged.resizes {size : Resolution} (c : Unchanged b settings free w es)
    (journal : x.journal = .reloaded settings size :: ds ++ w.journal) (apart : Apart ds)
    (force : inForce b.settings x.journal = settings) (waits : resizeWaits b.frames w.journal = true)
    (resized : resizeWaits b.frames x.journal = false) :
    Unchanged b settings free x (.reloaded settings size :: ds ++ es) := by
  refine ⟨force, by rw [engaged, journal]; rfl, fun v extent told => ?_, ?_⟩
  · rcases List.mem_cons.mp told with same | rest
    · cases same
      rfl
    · rcases List.mem_append.mp rest with new | old
      · cases (apart _ new).1
      · exact c.loads v extent old
  · have paid := c.paid
    have reloads := reloaded_counts apart settings size es
    rw [waits, Bool.toNat_true] at paid
    rw [reloads.1, reloads.2, resized, Bool.toNat_false]
    omega

theorem ReloadBudget.same (c : ReloadBudget b v settings free w es) (journal : x.journal = ds ++ w.journal)
    (unloaded : ∀ e ∈ ds, e.isReload = false) (alike : ∀ p, x.pending? = some p → p.equals v = true)
    (force : inForce b.settings x.journal = inForce b.settings w.journal ∨
      inForce b.settings x.journal = engaged b.settings w.journal)
    (engages : engaged b.settings x.journal = engaged b.settings w.journal ∨
      engaged b.settings x.journal = inForce b.settings w.journal ∧
      brokenReloads es < brokenReloads (ds ++ es)) :
    ReloadBudget b v settings free x (ds ++ es) := by
  refine ⟨alike, journal ▸ phaseOf_congr ds c.phase, ?_, fun same => ?_⟩
  · have balance := balance_append b.frames unloaded es w.journal
    have broken := brokenReloads_le ds es
    have paid := c.paid
    rw [← journal] at balance
    rcases engages with kept | ⟨_, more⟩
    · rw [kept]
      omega
    · have most := Bool.toNat_le (!(engaged b.settings x.journal).equals v)
      omega
  · have held := c.unchanged same
    refine held.same journal unloaded ?_ ?_
    · rcases force with kept | come
      · exact kept.trans held.force
      · exact come.trans held.engages
    · rcases engages with kept | ⟨back, _⟩
      · exact kept.trans held.engages
      · exact back.trans held.force

theorem ReloadBudget.loads {size : Resolution} {loaded : Settings} (c : ReloadBudget b v settings free w es)
    (journal : x.journal = .reloaded loaded size :: ds ++ w.journal) (apart : Apart ds)
    (idle : engaged b.settings w.journal = inForce b.settings w.journal)
    (force : inForce b.settings x.journal = inForce b.settings w.journal)
    (cause : loaded = inForce b.settings w.journal ∧ resizeWaits b.frames w.journal = true ∨
      w.pending? = some loaded ∧ loaded.equals (inForce b.settings w.journal) = false)
    (resized : resizeWaits b.frames x.journal = false) (pending : x.pending? = none) :
    ReloadBudget b v settings free x (.reloaded loaded size :: ds ++ es) := by
  have engages : engaged b.settings x.journal = loaded := by
    rw [engaged, journal]
    rfl
  have strange (waited : w.pending? = some loaded)
    (differs : loaded.equals (inForce b.settings w.journal) = false) :
      (inForce b.settings w.journal).equals v = false := by
    rw [← Bool.not_eq_true]
    intro back
    rw [Settings.equals_comm] at back
    simp [Settings.equals_trans (c.alike loaded waited) back] at differs
  refine ⟨by simp [pending], by rw [journal]; rfl, ?_, fun same => ?_⟩
  · have reloads := reloaded_counts apart loaded size es
    have broken := brokenReloads_le (.reloaded loaded size :: ds) es
    have paid := c.paid
    rw [idle] at paid
    rw [reloads.1, reloads.2, engages, resized]
    rcases cause with ⟨same, waits⟩ | ⟨waited, differs⟩
    · rw [← same, waits] at paid
      simp only [Bool.toNat_true, Bool.toNat_false] at paid ⊢
      omega
    · rw [strange waited differs] at paid
      rw [c.alike loaded waited]
      simp only [Bool.not_true, Bool.not_false, Bool.toNat_true, Bool.toNat_false] at paid ⊢
      omega
  · have held := c.unchanged same
    rcases cause with ⟨mine, waits⟩ | ⟨waited, differs⟩
    · rw [held.force] at mine
      subst mine
      exact held.resizes journal apart (force.trans held.force) waits resized
    · have other := strange waited differs
      rw [held.force, Settings.equals_comm, same] at other
      cases other

theorem ReloadMove.reloadBudget (m : ReloadMove b w x ds) (journal : x.journal = ds ++ w.journal)
    (asked : ∀ r p, .requested r ∈ ds → r.settings? = some p → p.equals v = true)
    (c : ReloadBudget b v settings free w es) : ReloadBudget b v settings free x (ds ++ es) := by
  cases m with
  | rests apart engages force fewer =>
    exact c.same journal (fun e he => (apart e he).1) (fun p waits => c.alike p (fewer p waits)) force
      (.inl engages)
  | asks r early late idle engages force pending =>
    refine c.same journal (fun e he => ?_) (fun p waits => ?_) (.inl force) (.inl engages)
    · rcases List.mem_append.mp he with new | rest
      · exact (late e new).1
      · rcases List.mem_cons.mp rest with rfl | old
        · rfl
        · exact (early e old).1
    · rw [pending] at waits
      cases asks : r.settings? with
      | none =>
        rw [asks] at waits
        exact c.alike p waits
      | some q =>
        rw [asks] at waits
        cases waits
        exact asked r _ (by simp) asks
  | loads loaded size apart idle force cause resized pending =>
    exact c.loads journal apart idle force cause resized pending
  | breaks loading pending =>
    refine c.same journal (by simp [Event.isReload]) (fun p waits => c.alike p (pending ▸ waits))
      (.inl (by rw [journal]; rfl)) (.inr ⟨by rw [engaged, journal]; rfl, ?_⟩)
    rw [← c.phase] at loading
    simp [brokenReloads, loading]

end

section
variable {b : AdapterOptions} {s u x t : System} {v : Settings} {es new : List Event} {earlier : List System}

theorem Reachable.reloadMove (h : Reachable b s) (m : Move s t) :
    ∃ es, t.world.journal = es ++ s.world.journal ∧ ReloadMove b s.world t.world es := by
  obtain ⟨σ, popped, below, others, n, act⟩ := m.act
  have gated := h.gated.perm act.before
  have later (a : Adapter) := (h.move m).resizeWaits_eq (a := a)
  rw [act.world] at later ⊢
  exact (act.effect.adapterMove gated).reloadMove gated (h.phased.perm act.before)
    (fun _ => h.resizeWaits_eq) later

theorem Reachable.reloadBudget (h : Reachable b s) (m : Move s u) {a : Adapter}
    (was : s.world.adapter? = some a)
    (news : u.world.journal = new ++ s.world.journal) {r : AdapterRequest} (told : .requested r ∈ new)
    (asks : r.settings? = some v) (number : v.pixelScale.isNaN = false) :
    ReloadBudget b v a.settings a.resize.target.isSome.toNat u.world [] := by
  obtain ⟨es, journal, move⟩ := h.reloadMove m
  obtain rfl : es = new := List.append_cancel_right (journal.symm.trans news)
  have asked {ds : List Event} (apart : Apart ds) : .requested r ∉ ds := fun mem => by
    cases (apart _ mem).2
  cases move with
  | rests apart => exact absurd told (asked apart)
  | loads _ _ apart => exact absurd (List.mem_of_ne_of_mem (by simp) told) (asked apart)
  | breaks => simp at told
  | @asks before after q early late idle engages force pending =>
    obtain rfl : r = q := by simpa [asked early, asked late] using told
    have settings : inForce b.settings u.world.journal = a.settings :=
      force.trans (h.phased.settings a was).symm
    have working : engaged b.settings u.world.journal = a.settings :=
      (engaged_idle (by rw [idle]; rfl)).trans settings
    have waits : (resizeWaits b.frames u.world.journal).toNat ≤ a.resize.target.isSome.toNat := by
      have plain : (Event.requested r).isResize = false := by cases r <;> first | rfl | cases asks
      have unresized : (after ++ .requested r :: before).countP Event.isResize = 0 := by
        simp [unresized_of_apart early, unresized_of_apart late, plain]
      have most := resizeWaits_append b.frames (after ++ .requested r :: before) s.world.journal
      rwa [← journal, unresized, h.resizeWaits_eq was, Nat.zero_add] at most
    refine ⟨fun p waiting => ?_, idle.symm, ?_, fun _ => ⟨settings, working, by simp, ?_⟩⟩
    · rw [pending, asks] at waiting
      cases waiting
      simp [number]
    · have most := Bool.toNat_le (!(engaged b.settings u.world.journal).equals v)
      simp only [List.countP_nil, brokenReloads]
      omega
    · simpa using waits

theorem Onward.reloadBudget {settings : Settings} {free : Nat} (run : Onward u (t :: earlier))
    (h : Reachable b u)
    (start : ReloadBudget b v settings free u.world []) (news : t.world.journal = es ++ u.world.journal)
    (asked : ∀ r p, .requested r ∈ es → r.settings? = some p → p.equals v = true) :
    ReloadBudget b v settings free t.world es := by
  generalize moments : t :: earlier = l at run
  induction run generalizing t earlier es with
  | here =>
    cases moments
    obtain rfl : es = [] := List.append_left_eq_self.mp news.symm
    exact start
  | @goes x y earlier run m ih =>
    cases moments
    obtain ⟨fs, old⟩ := run.grows
    obtain ⟨ds, journal, move⟩ := (run.reachable h).reloadMove m
    obtain rfl : es = ds ++ fs := by
      rw [journal, old, ← List.append_assoc] at news
      exact (List.append_cancel_right news).symm
    have before := ih old (fun r p mem => asked r p (List.mem_append_right _ mem)) rfl
    exact move.reloadBudget journal (fun r p mem => asked r p (List.mem_append_left _ mem)) before

theorem Adapter.due_differing {a : Adapter} {current : Resolution} (settled : a.settling = false)
    (pending : a.pending = some v) (differs : v.equals a.settings = false) :
    ∃ size, a.due current = some ⟨v, size⟩ := by
  have changed : a.changedSettings = some v := by simp [Adapter.changedSettings, pending, differs]
  have free : ¬(a.resize.target.isSome && decide (1 < a.resize.frames)) = true := by
    simpa [Adapter.settling] using settled
  exact ⟨_, by simp only [Adapter.due, if_neg free, changed]; rfl⟩

/-- For settings that equal themselves: requesting settings equal to those in force causes no reload, so
that all reloads are for resizes and load the same settings; other settings cost one reload, and one for
each aborted reload, however often they are requested. A pass that finds a target, no settling resize, and
pending settings that differ from those in force reloads with them; settings with a NaN scale always differ.
-/
theorem unchanged_settings_skip_reload (h : Reachable b s) :
    (∀ u a r v new, Move s u → s.world.adapter? = some a → u.world.journal = new ++ s.world.journal →
      .requested r ∈ new → r.settings? = some v → v.pixelScale.isNaN = false →
      ∀ t earlier es, Onward u (t :: earlier) → t.world.journal = es ++ u.world.journal →
        (∀ q p, .requested q ∈ es → q.settings? = some p → p.equals v = true) →
        (v.equals a.settings = true →
          (∀ p size, .reloaded p size ∈ es → p = a.settings) ∧
          es.countP Event.isReload ≤ es.countP Event.isResize + a.resize.target.isSome.toNat) ∧
        es.countP Event.isReload
          ≤ es.countP Event.isResize + a.resize.target.isSome.toNat + (brokenReloads es + 1)) ∧
    ∀ thread x earlier t, Passing s thread (x :: earlier) → Move x t → openPass t.world.journal = none →
      ∃ a result es, s.world.adapter? = some a ∧
        t.world.journal = .passEnded result :: (es ++ .passBegan thread :: s.world.journal) ∧
        ∀ v, a.pending = some v → v.equals a.settings = false ∨ v.pixelScale.isNaN = true →
          a.settling = false → .targetRead true ∈ es → ∃ size, .reloaded v size ∈ es := by
  constructor
  · intro u a r v new m was news told asks number t earlier es run journal asked
    have reloadBudget := run.reloadBudget (h.move m) (h.reloadBudget m was news told asks number) journal asked
    refine ⟨fun equal => ?_, ?_⟩
    · have held := reloadBudget.unchanged equal
      exact ⟨held.loads, Nat.le_trans (Nat.le_add_right _ _) held.paid⟩
    · have paid := reloadBudget.paid
      omega
  · intro thread x earlier t p m closed
    obtain ⟨a, result, es, now, was, ending, _, passEffect⟩ := p.passEffect h m closed
    refine ⟨a, result, es, was, ending.journal, fun v pending other settled looked => ?_⟩
    have differs : v.equals a.settings = false := other.elim id (v.equals_of_isNaN a.settings)
    cases passEffect with
    | kept unread => exact absurd looked unread
    | drew _ _ _ loads =>
      obtain ⟨size, due⟩ := Adapter.due_differing settled pending differs
      exact ⟨size, (loads v size).mpr due⟩
    | broken _ _ _ loads =>
      obtain ⟨size, due⟩ := Adapter.due_differing settled pending differs
      exact ⟨size, (loads v size).mpr due⟩

end

def Machine.sampleLoaded : Machine :=
  let asked := (Request.adapter (.settings ⟨.auto, 30, .ofNat 1⟩)).carryOut Machine.sample.world 0
  Request.render.carryOut asked.world 0

def Machine.sampleRepeated : Machine :=
  (Request.adapter (.settings ⟨.auto, 30, .ofNat 1⟩)).begin Machine.sampleLoaded.world 0

theorem reachable_sampleLoaded : Reachable .standard Machine.sampleLoaded.alone :=
  (reachable_sample.alone_carryOut rfl (.adapter (.settings ⟨.auto, 30, .ofNat 1⟩)) 0).alone_carryOut
    (by decide) .render 0

theorem move_sampleRepeated : Move Machine.sampleLoaded.alone Machine.sampleRepeated.alone :=
  .turn [] Machine.sampleLoaded.strand [] (.begin _ 0 (by decide) (by simp))

theorem Onward.alone_carryOut {s : System} {m : Machine} {earlier : List System}
    (run : Onward s (m.alone :: earlier)) (idle : m.stack = []) (r : Request) (thread : Nat) :
    ∃ before, Onward s ((r.carryOut m.world thread).alone :: before) := by
  have begun : Onward s ((r.begin m.world thread).alone :: m.alone :: earlier) :=
    run.goes (.turn [] m.strand [] (.begin r thread idle (by simp)))
  exact begun.alone_runFor _

def AdapterOptions.sampleNaN : AdapterOptions := .withSettings .standard ⟨.auto, 60, .nan⟩

def Machine.sampleNaN : Machine :=
  .proceed ((World.empty.build .panel ⟨true, false, none, true, true, true⟩ .sampleNaN).toOption.getD .empty) []

def Machine.sampleNaNRequested : Machine :=
  (Request.adapter (.settings ⟨.auto, 60, .nan⟩)).begin Machine.sampleNaN.world 0

def Machine.sampleNaNPass : Machine := Request.render.begin Machine.sampleNaNRequested.world 0

theorem reachable_sampleNaN : Reachable .sampleNaN Machine.sampleNaN.alone := by
  have built : World.empty.build .panel ⟨true, false, none, true, true, true⟩ .sampleNaN
      = .ok Machine.sampleNaN.world := rfl
  exact .built 1 bare_empty built

theorem move_sampleNaNRequested : Move Machine.sampleNaN.alone Machine.sampleNaNRequested.alone :=
  .turn [] Machine.sampleNaN.strand [] (.begin _ 0 (by decide) (by simp))

theorem reachable_sampleNaNPass : Reachable .sampleNaN Machine.sampleNaNPass.alone :=
  (reachable_sampleNaN.move move_sampleNaNRequested).alone_begin (by decide) .render 0

theorem unchanged_settings_skip_reload_sample :
    (∃ earlier es, Onward Machine.sampleRepeated.alone
        ((Request.render.carryOut Machine.sampleRepeated.world 0).alone :: earlier) ∧
      (Request.render.carryOut Machine.sampleRepeated.world 0).world.journal
        = es ++ Machine.sampleRepeated.world.journal ∧
      .renderCalled ∈ es ∧ es.countP Event.isReload = 0) ∧
    ∃ earlier es size,
      Passing Machine.sampleNaNPass.alone 0 ((Machine.sampleNaNPass.step.runFor 5).alone :: earlier) ∧
      (Machine.sampleNaNPass.step.runFor 5).step.world.journal
        = .passEnded (some true) :: (es ++ .passBegan 0 :: Machine.sampleNaNPass.world.journal) ∧
      .reloaded ⟨.auto, 60, .nan⟩ size ∈ es := by
  constructor
  · obtain ⟨skips, _⟩ := unchanged_settings_skip_reload reachable_sampleLoaded
    obtain ⟨earlier, run⟩ := (Onward.here (s := Machine.sampleRepeated.alone)).alone_carryOut
      (by decide) .render 0
    let es := (Request.render.carryOut Machine.sampleRepeated.world 0).world.journal.take 7
    have loaded : Machine.sampleLoaded.world.adapter?
        = some ⟨⟨3, 0, none⟩, ⟨.auto, 30, .ofNat 1⟩, none⟩ := by decide
    have unasked : ∀ e ∈ es, e.isRequest = false := by decide
    obtain ⟨unchanged, _⟩ := skips Machine.sampleRepeated.alone _ (.settings ⟨.auto, 30, .ofNat 1⟩) _
      (Machine.sampleRepeated.world.journal.take 2) move_sampleRepeated loaded (by decide) (by decide) rfl
      (by decide) _ earlier es run (by decide) (fun q p told => by cases unasked _ told)
    obtain ⟨_, fewer⟩ := unchanged (by decide)
    exact ⟨earlier, es, run, by decide, by decide, Nat.le_zero.mp (Nat.le_trans fewer (by decide))⟩
  · obtain ⟨_, passes⟩ := unchanged_settings_skip_reload reachable_sampleNaNPass
    obtain ⟨earlier, p⟩ := Machine.sampleNaNPass.passes_alone 0 5 (by decide) (by decide)
    obtain ⟨a, result, es, was, journal, reloads⟩ := passes 0 _ earlier
      (Machine.sampleNaNPass.step.runFor 5).step.alone p (.turn [] _ [] .step) (by decide)
    have found : Machine.sampleNaNPass.alone.world.adapter?
        = some ⟨⟨3, 0, none⟩, ⟨.auto, 60, .nan⟩, some ⟨.auto, 60, .nan⟩⟩ := by decide
    obtain rfl := Option.some.inj (was.symm.trans found)
    have written : (Machine.sampleNaNPass.step.runFor 5).step.world.journal
        = .passEnded (some true) ::
          (((Machine.sampleNaNPass.step.runFor 5).step.world.journal.drop 1).take 7 ++
            .passBegan 0 :: Machine.sampleNaNPass.world.journal) := by decide
    obtain ⟨ended, within⟩ := List.cons.inj (written.symm.trans journal)
    cases ended
    obtain rfl := List.append_cancel_right within
    obtain ⟨size, told⟩ := reloads ⟨.auto, 60, .nan⟩ rfl (.inr (by decide)) (by decide) (by decide)
    exact ⟨earlier, _, size, p, written, told⟩

theorem strange_settings_reload :
    ¬ ∀ (b : AdapterOptions) (s u t : System) (a : Adapter) (r : AdapterRequest) (new es : List Event)
      (earlier : List System), Reachable b s → Move s u → s.world.adapter? = some a → a.resize.target = none →
      u.world.journal = new ++ s.world.journal → .requested r ∈ new → r.settings? = some a.settings →
      Onward u (t :: earlier) → t.world.journal = es ++ u.world.journal → (∀ q, .requested q ∉ es) →
      ∀ settings size, .reloaded settings size ∉ es := by
  intro skips
  obtain ⟨earlier, run⟩ := (Onward.here (s := Machine.sampleNaNRequested.alone)).alone_carryOut
    (by decide) .render 0
  let es := (Request.render.carryOut Machine.sampleNaNRequested.world 0).world.journal.take 9
  have built : Machine.sampleNaN.world.adapter? = some ⟨⟨3, 0, none⟩, ⟨.auto, 60, .nan⟩, none⟩ := by decide
  have unasked : ∀ e ∈ es, e.isRequest = false := by decide
  have told : .reloaded ⟨.auto, 60, .nan⟩ (.ofNat 1024 768) ∈ es := by decide
  exact skips .sampleNaN Machine.sampleNaN.alone Machine.sampleNaNRequested.alone _ _
    (.settings ⟨.auto, 60, .nan⟩) (Machine.sampleNaNRequested.world.journal.take 2) es earlier
    reachable_sampleNaN
    move_sampleNaNRequested built rfl (by decide) (by decide) rfl run (by decide)
    (fun q mem => by cases unasked _ mem) _ _ told

end FrameHost
