import FrameHost.Proofs.Choices
import FrameHost.Proofs.OmittedPasses
import FrameHost.Proofs.Panics

/-!
Bursts of requests to the adapter without a pass in between. A request overtaken by later ones can be
removed. A configuration sets window and settings, and a resize captures the window in force, so which
requests are overtaken depends on their interleaving.
-/
namespace FrameHost

namespace AdapterRequest

def isResize : AdapterRequest → Bool
  | resize .. => true
  | _ => false

/-- The later requests determine all that the request sets: a resize before another resize, settings before
settings or a configuration, and a configuration before another one, unless a resize in between captures its
window and is not overtaken itself. -/
inductive Overtaken : AdapterRequest → List AdapterRequest → Prop where
  | resize {width height : Nat} {later : List AdapterRequest} (again : ∃ r ∈ later, r.isResize = true) :
      Overtaken (.resize width height) later
  | settings {s : Settings} {later : List AdapterRequest} (again : ∃ r ∈ later, r.settings?.isSome = true) :
      Overtaken (.settings s) later
  | config {c d : HostConfig} (between after : List AdapterRequest)
      (outdone : ∀ early width height late, between = early ++ .resize width height :: late →
        ∃ r ∈ late ++ .config d :: after, r.isResize = true) :
      Overtaken (.config c) (between ++ .config d :: after)

def reconfigured : List AdapterRequest → Bool
  | [] => false
  | config _ :: _ => true
  | settings _ :: later => reconfigured later
  | resize .. :: later => later.any isResize && reconfigured later

def overtaken : AdapterRequest → List AdapterRequest → Bool
  | resize .., later => later.any isResize
  | settings _, later => later.any fun r => r.settings?.isSome
  | config _, later => reconfigured later

variable {r : AdapterRequest} {later : List AdapterRequest}

theorem reconfigured_iff : reconfigured later = true ↔ ∃ between d after,
    later = between ++ .config d :: after ∧ ∀ early width height late,
      between = early ++ .resize width height :: late →
      ∃ r ∈ late ++ .config d :: after, r.isResize = true := by
  induction later with
  | nil => simp [reconfigured]
  | cons r later ih =>
    -- The first element is the configuration itself or one of those in between.
    have first (between : List AdapterRequest) (d : HostConfig) (after : List AdapterRequest)
        (split : r :: later = between ++ .config d :: after) :
        between = [] ∧ r = .config d ∧ later = after ∨
        ∃ rest, between = r :: rest ∧ later = rest ++ .config d :: after := by
      cases between with
      | nil =>
        obtain ⟨rfl, rfl⟩ := List.cons.inj split
        exact .inl ⟨rfl, rfl, rfl⟩
      | cons x rest =>
        obtain ⟨rfl, rfl⟩ := List.cons.inj split
        exact .inr ⟨rest, rfl, rfl⟩
    cases r with
    | config c =>
      simp only [reconfigured, true_iff]
      exact ⟨[], c, later, rfl, by simp⟩
    | settings s =>
      simp only [reconfigured, ih]
      constructor
      · rintro ⟨between, d, after, rfl, outdone⟩
        refine ⟨.settings s :: between, d, after, rfl, ?_⟩
        intro early width height late split
        cases early with
        | nil => cases split
        | cons x early => exact outdone early width height late (List.cons.inj split).2
      · rintro ⟨between, d, after, split, outdone⟩
        obtain ⟨-, other, -⟩ | ⟨rest, rfl, rfl⟩ := first between d after split
        · cases other
        · refine ⟨rest, d, after, rfl, ?_⟩
          intro early width height late split
          exact outdone (.settings s :: early) width height late (by rw [split, List.cons_append])
    | resize width height =>
      simp only [reconfigured, Bool.and_eq_true, ih, List.any_eq_true]
      constructor
      · rintro ⟨again, between, d, after, rfl, outdone⟩
        refine ⟨.resize width height :: between, d, after, rfl, ?_⟩
        intro early width height late split
        cases early with
        | nil =>
          obtain ⟨-, rfl⟩ := List.cons.inj split
          exact again
        | cons x early => exact outdone early width height late (List.cons.inj split).2
      · rintro ⟨between, d, after, split, outdone⟩
        obtain ⟨-, other, -⟩ | ⟨rest, rfl, rfl⟩ := first between d after split
        · cases other
        · refine ⟨outdone [] width height rest rfl, rest, d, after, rfl, ?_⟩
          intro early width' height' late split
          exact outdone (.resize width height :: early) width' height' late (by rw [split, List.cons_append])

theorem overtaken_iff : overtaken r later = true ↔ Overtaken r later := by
  cases r with
  | resize width height =>
    rw [overtaken, List.any_eq_true]
    exact ⟨.resize, fun | .resize again => again⟩
  | settings s =>
    rw [overtaken, List.any_eq_true]
    exact ⟨.settings, fun | .settings again => again⟩
  | config c =>
    rw [overtaken, reconfigured_iff]
    constructor
    · rintro ⟨between, d, after, rfl, outdone⟩
      exact .config between after outdone
    · intro lost
      cases lost with
      | config between after outdone => exact ⟨between, _, after, rfl, outdone⟩

instance (r : AdapterRequest) (later : List AdapterRequest) : Decidable (Overtaken r later) :=
  decidable_of_iff _ overtaken_iff

def condense : List AdapterRequest → List AdapterRequest
  | [] => []
  | r :: later => if Overtaken r later then condense later else r :: condense later

end AdapterRequest

namespace Adapter

def requests (a : Adapter) (rs : List AdapterRequest) : Except Fault Adapter := rs.foldlM request a

def asked (a : Adapter) : AdapterRequest → Adapter
  | .resize width height => { a with resize := a.resize.begin (.ofNat width height) }
  | .settings s => { a with pending := some s }
  | .config c =>
      { a with resize := { a.resize with window := max c.debounceFrames 1 }, pending := some c.graphics }

theorem request_asked (a : Adapter) (r : AdapterRequest) : a.request r = .ok (a.asked r) := by
  cases r with
  | resize width height => rfl
  | settings s => rfl
  | config c =>
    have raised : max c.debounceFrames 1 ≠ 0 := by omega
    simp only [request, Debouncer.setWindow, if_neg raised]
    rfl

theorem requests_asked (a : Adapter) (rs : List AdapterRequest) : a.requests rs = .ok (rs.foldl asked a) := by
  induction rs generalizing a with
  | nil => rfl
  | cons r rs ih =>
    unfold requests at ih ⊢
    rw [List.foldlM_cons, request_asked]
    exact ih (a.asked r)

/-- The adapters agree except in what the later requests set. -/
structure Agree (later : List AdapterRequest) (a b : Adapter) : Prop where
  settings : a.settings = b.settings
  pending : (later.any fun r => r.settings?.isSome) = true ∨ a.pending = b.pending
  burst : later.any AdapterRequest.isResize = true ∨
    a.resize.frames = b.resize.frames ∧ a.resize.target = b.resize.target
  window : AdapterRequest.reconfigured later = true ∨ a.resize.window = b.resize.window

variable {a b : Adapter} {r : AdapterRequest} {later rs : List AdapterRequest}

theorem Agree.next (h : Agree (r :: later) a b) : Agree later (a.asked r) (b.asked r) := by
  obtain ⟨settings, pending, burst, window⟩ := h
  cases r with
  | resize width height =>
    simp only [AdapterRequest.reconfigured, Bool.and_eq_true] at window
    refine ⟨settings, by simpa [AdapterRequest.settings?, asked] using pending, ?_, ?_⟩
    · rcases window with ⟨again, -⟩ | same
      · exact .inl again
      · exact .inr ⟨same, rfl⟩
    · exact window.imp_left And.right
  | settings s =>
    exact ⟨settings, .inr rfl, by simpa [AdapterRequest.isResize, asked] using burst, window⟩
  | config c =>
    exact ⟨settings, .inr rfl, by simpa [AdapterRequest.isResize, asked] using burst, .inr rfl⟩

theorem Agree.run (h : Agree rs a b) : rs.foldl asked a = rs.foldl asked b := by
  induction rs generalizing a b with
  | nil =>
    obtain ⟨⟨window, frames, target⟩, settings, pending⟩ := a
    obtain ⟨⟨window', frames', target'⟩, settings', pending'⟩ := b
    simpa [AdapterRequest.reconfigured, and_assoc] using And.intro h.window
      (And.intro h.burst (And.intro h.settings h.pending))
  | cons r rs ih => exact ih h.next

/-- Removing an overtaken request keeps the adapters in agreement. -/
theorem agree_of_overtaken (lost : AdapterRequest.overtaken r later = true) (a : Adapter) :
    Agree later (a.asked r) a := by
  cases r with
  | resize width height => exact ⟨rfl, .inr rfl, .inl lost, .inr rfl⟩
  | settings s => exact ⟨rfl, .inl lost, .inr ⟨rfl, rfl⟩, .inr rfl⟩
  | config c =>
    refine ⟨rfl, .inl ?_, .inr ⟨rfl, rfl⟩, .inl lost⟩
    obtain ⟨between, d, after, rfl, -⟩ := AdapterRequest.reconfigured_iff.mp lost
    simp [AdapterRequest.settings?]

theorem asked_condense (a : Adapter) (rs : List AdapterRequest) :
    (AdapterRequest.condense rs).foldl asked a = rs.foldl asked a := by
  induction rs generalizing a with
  | nil => rfl
  | cons r later ih =>
    unfold AdapterRequest.condense
    split
    · next lost =>
      rw [ih, List.foldl_cons]
      exact (agree_of_overtaken (AdapterRequest.overtaken_iff.mpr lost) a).run.symm
    · rw [List.foldl_cons, List.foldl_cons, ih]

end Adapter

def World.asked (w : World) (thread : Nat) (rs : List AdapterRequest) : World :=
  rs.foldl (fun w r => ((Request.adapter r).carryOut w thread).world) w

/-- Both bursts give the same adapter, and the same choices with the same events are possible after both. -/
def Interchangeable (rs others : List AdapterRequest) : Prop :=
  (∀ a : Adapter, ∃ b, a.requests rs = .ok b ∧ a.requests others = .ok b) ∧
  ∀ w thread strands choices told,
    (∃ x, Chosen ⟨World.asked w thread rs, strands⟩ choices told x) ↔
      ∃ x, Chosen ⟨World.asked w thread others, strands⟩ choices told x

section
variable {w : World} {h : Host} {thread : Nat} {rs others : List AdapterRequest}

theorem World.asked_one (hosted : w.host = some h) (r : AdapterRequest) (thread : Nat) :
    ∃ journal, ((Request.adapter r).carryOut w thread).world
      = { w with journal, host := some { h with adapter := h.adapter.asked r } } := by
  have atOnce : (Request.adapter r).begin w thread = w.ask h r := by
    simp only [Request.begin, Request.ofHost, hosted]
  obtain ⟨v, proceeds⟩ := World.ask_proceeds (v := w) h r
  have rest : (Request.adapter r).carryOut w thread = w.ask h r := by
    rw [Request.carryOut, atOnce, proceeds, Machine.run]
    cases Machine.weight (.proceed v []) <;> rfl
  obtain ⟨j, eq⟩ := (w.record (.requested r)).recordAll_eq (r.warnings.map .log)
  refine ⟨.log r.notice :: j, ?_⟩
  rw [rest]
  simp only [ask, h.adapter.request_asked, eq]
  simp [Machine.proceed, log, record, setAdapter, hosted]

theorem World.asked_hosted (hosted : w.host = some h) (thread : Nat) (rs : List AdapterRequest) :
    ∃ journal, w.asked thread rs
      = { w with journal, host := some { h with adapter := rs.foldl Adapter.asked h.adapter } } := by
  induction rs generalizing w h with
  | nil => exact ⟨w.journal, by rw [List.foldl_nil, ← hosted]; rfl⟩
  | cons r rs ih =>
    obtain ⟨first, same⟩ := World.asked_one hosted r thread
    obtain ⟨journal, rest⟩ := ih (w := ((Request.adapter r).carryOut w thread).world) (by rw [same])
    exact ⟨journal, by rw [asked, List.foldl_cons]; exact rest.trans (by rw [same]; rfl)⟩

theorem World.asked_hostless (none : w.host = none) (thread : Nat) (rs : List AdapterRequest) :
    w.asked thread rs = w := by
  induction rs with
  | nil => rfl
  | cons r rs ih =>
    have nothing : (Request.adapter r).begin w thread = .proceed w [] := by
      simp only [Request.begin, Request.ofHost, none]
    have rest : (Request.adapter r).carryOut w thread = .proceed w [] := by
      rw [Request.carryOut, nothing, Machine.run]
      cases Machine.weight (.proceed w []) <;> rfl
    rw [asked, List.foldl_cons, rest]
    exact ih

theorem World.asked_same (same : ∀ a : Adapter, rs.foldl Adapter.asked a = others.foldl Adapter.asked a)
    (w : World) (thread : Nat) : ∃ (u : World) (events told : List Event),
      w.asked thread rs = u.since ⟨events, []⟩ ∧ w.asked thread others = u.since ⟨told, []⟩ := by
  cases hosted : w.host with
  | none =>
    refine ⟨{ w with journal := [] }, w.journal, w.journal, ?_, ?_⟩
    · rw [asked_hostless hosted]; rfl
    · rw [asked_hostless hosted]; rfl
  | some h =>
    obtain ⟨events, first⟩ := World.asked_hosted hosted thread rs
    obtain ⟨told, second⟩ := World.asked_hosted hosted thread others
    refine ⟨{ w with journal := [], host := some { h with adapter := rs.foldl Adapter.asked h.adapter } },
      events, told, first, ?_⟩
    rw [second, ← same]
    rfl

theorem Chosen.since {u : World} {events earlier : List Event} {strands : List Strand} {choices : List Choice}
    {told : List (List Event)} {x : System}
    (run : Chosen ⟨u.since ⟨events, []⟩, strands⟩ choices told x) :
    ∃ v : World, x.world = v.since ⟨events, []⟩ ∧
      Chosen ⟨u.since ⟨earlier, []⟩, strands⟩ choices told ⟨v.since ⟨earlier, []⟩, x.strands⟩ := by
  induction run with
  | here => exact ⟨u, rfl, .here⟩
  | @goes x y choices told c es run m news ih =>
    obtain ⟨v, world, chosen⟩ := ih
    obtain ⟨σ, k, here, turn, rfl⟩ := m.at
    have takes : ∃ n : Machine, k = n.since ⟨events, []⟩ ∧
        σ.Takes (v.since ⟨earlier, []⟩) (framesOf (x.strands.eraseIdx c.place)) c.begins
          (n.since ⟨earlier, []⟩) := by
      rw [world] at turn
      generalize c.begins = begins at turn ⊢
      cases turn with
      | step =>
        refine ⟨(σ.on v).step, Strand.step_since v _ σ (.inl rfl), ?_⟩
        rw [← Strand.step_since v _ σ (.inl rfl)]
        exact .step
      | begin r thread idle free =>
        refine ⟨r.begin v thread, r.begin_since v _ thread, ?_⟩
        rw [← Request.begin_since]
        exact .begin r thread idle free
    obtain ⟨n, rfl, takes⟩ := takes
    have wrote : n.world.journal = es ++ v.journal := by
      rw [world] at news
      exact List.append_cancel_right (news.trans (List.append_assoc es v.journal events).symm)
    have next := System.takes_at (s := ⟨v.since ⟨earlier, []⟩, x.strands⟩) here takes
    refine ⟨n.world, rfl, chosen.goes next ?_⟩
    change n.world.journal ++ earlier = es ++ (v.journal ++ earlier)
    rw [wrote, List.append_assoc]

theorem interchangeable (same : ∀ a : Adapter, rs.foldl Adapter.asked a = others.foldl Adapter.asked a) :
    Interchangeable rs others := by
  refine ⟨fun a => ⟨rs.foldl Adapter.asked a, a.requests_asked rs, ?_⟩, ?_⟩
  · rw [a.requests_asked others, same]
  · intro w thread strands choices told
    obtain ⟨u, events, earlier, first, second⟩ := World.asked_same same w thread
    rw [first, second]
    constructor
    · rintro ⟨x, run⟩
      obtain ⟨v, -, chosen⟩ := run.since
      exact ⟨_, chosen⟩
    · rintro ⟨x, run⟩
      obtain ⟨v, -, chosen⟩ := run.since
      exact ⟨_, chosen⟩

/-- A burst is interchangeable with its condensed form, and adjacent resize and settings commute: the
adapter is the same, and so are all later reloads. -/
theorem bursts_condense (rs : List AdapterRequest) :
    Interchangeable rs (AdapterRequest.condense rs) ∧
    ∀ (early late : List AdapterRequest) (width height : Nat) (s : Settings),
      Interchangeable (early ++ .resize width height :: .settings s :: late)
        (early ++ .settings s :: .resize width height :: late) := by
  refine ⟨interchangeable fun a => (a.asked_condense rs).symm, ?_⟩
  intro early late width height s
  refine interchangeable fun a => ?_
  rw [List.foldl_append, List.foldl_append]
  rfl

example (s t : Settings) (c : HostConfig) :
    AdapterRequest.condense [.resize 1 2, .config ⟨s, 5⟩, .settings t, .resize 3 4, .config c, .config ⟨t, 2⟩]
      = [.config ⟨s, 5⟩, .resize 3 4, .config ⟨t, 2⟩] := by rfl

end

end FrameHost
