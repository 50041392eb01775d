import FrameHost.Timer.Routine
import Mathlib.Data.List.InsertIdx
import Mathlib.Data.List.Nodup

/-!
Timers and the slots of their registry, for any registry that satisfies `Registry.Keeps`: the slots in use
are those of the existing timers, one each, whatever faults occur.
-/
namespace FrameHost

/-- The registry changes at most the slot it is called for. A `new` that faults leaves no slot, and a
`delete` frees its slot even if it faults. -/
structure Registry.Keeps {σ α β : Type} (slots : σ → TimerId → Option β) (reg : Registry σ α) : Prop where
  asked : ∀ s, slots (reg.inLogicThread s).2 = slots s
  logged : ∀ r s, slots (reg.log r s) = slots s
  refused : ∀ length repeats action s fault after, reg.new length repeats action s = (.error fault, after) →
    slots after = slots s
  given : ∀ length repeats action s id after, reg.new length repeats action s = (.ok id, after) →
    (slots after id).isSome = true ∧ ∀ other, other ≠ id → slots after other = slots s other
  set : ∀ id length s, (slots (reg.set id length s).2 id).isSome = (slots s id).isSome ∧
    ∀ other, other ≠ id → slots (reg.set id length s).2 other = slots s other
  deleted : ∀ id s, slots (reg.delete id s).2 id = none ∧
    ∀ other, other ≠ id → slots (reg.delete id s).2 other = slots s other

structure Pool (σ : Type) where
  registry : σ
  live : List TimerHandle

def Pool.ids {σ : Type} (p : Pool σ) : List TimerId := p.live.map TimerHandle.id

structure Pool.Matched {σ β : Type} (slots : σ → TimerId → Option β) (p : Pool σ) : Prop where
  slots : ∀ id, (slots p.registry id).isSome = true ↔ id ∈ p.ids
  nodup : p.ids.Nodup

section
variable {σ α β : Type} (slots : σ → TimerId → Option β) (reg : Bool → Registry σ α)

/-- The operations on timers, outside and during unwinding, with the place of the timer. A timer is dropped
on the logic thread unless a fault unwinds. -/
inductive Pool.Works : Pool σ → Option Nat → Pool σ → Prop where
  | creates {p : Pool σ} {t : TimerHandle} {after : σ} (unwinding : Bool) (length : Span) (repeats : Bool)
      (action : α)
      (made : TimerHandle.create (reg unwinding) length repeats action p.registry = (.ok t, after))
      (fresh : slots p.registry t.id = none) : Works p none ⟨after, p.live ++ [t]⟩
  | fails {p : Pool σ} {fault : Fault} {after : σ} (unwinding : Bool) (length : Span) (repeats : Bool)
      (action : α)
      (made : TimerHandle.create (reg unwinding) length repeats action p.registry = (.error fault, after)) :
      Works p none ⟨after, p.live⟩
  | sets {p : Pool σ} {place : Nat} {t : TimerHandle} (unwinding : Bool) (length : Span)
      (here : p.live[place]? = some t) :
      Works p (some place) ⟨(t.setLength (reg unwinding) length p.registry).2.2,
        p.live.set place (t.setLength (reg unwinding) length p.registry).2.1⟩
  | drops {p : Pool σ} {place : Nat} {t : TimerHandle} (unwinding : Bool)
      (here : p.live[place]? = some t)
      (checked : unwinding = false → ((reg unwinding).inLogicThread p.registry).1 = true) :
      Works p (some place) ⟨(t.drop (reg unwinding) unwinding p.registry).2, p.live.eraseIdx place⟩

/-- The pools reached from an empty one. Between operations the registry may change state if the slots in
use stay the same. -/
inductive Pool.Run (s : σ) : Pool σ → Prop where
  | start (empty : ∀ id, slots s id = none) : Run s ⟨s, []⟩
  | works {p q : Pool σ} {place : Option Nat} (run : Run s p) (work : Pool.Works slots reg p place q) : Run s q
  | rests {p : Pool σ} {after : σ} (run : Run s p)
      (same : ∀ id, (slots after id).isSome = (slots p.registry id).isSome) : Run s ⟨after, p.live⟩

end

section
variable {σ α β : Type} {slots : σ → TimerId → Option β} {reg : Registry σ α} {s after : σ}

namespace Registry.Keeps

theorem create_ok (k : reg.Keeps slots) {length : Span} {repeats : Bool} {action : α} {t : TimerHandle}
    (made : TimerHandle.create reg length repeats action s = (.ok t, after)) :
    (slots after t.id).isSome = true ∧ ∀ other, other ≠ t.id → slots after other = slots s other := by
  unfold TimerHandle.create at made
  have asked := k.asked s
  split at made
  · cases made
  · rename_i s' answer
    rw [answer] at asked
    split at made
    · cases made
    · rename_i id s'' result
      obtain ⟨registered, others⟩ := k.given _ _ _ _ _ _ result
      obtain ⟨rfl, rfl⟩ : ⟨id, length, repeats⟩ = t ∧
          reg.log (.timerRegistered id length repeats) s'' = after := by
        simpa using made
      rw [k.logged]
      exact ⟨registered, fun other ne => (others other ne).trans (congrFun asked other)⟩

theorem create_error (k : reg.Keeps slots) {length : Span} {repeats : Bool} {action : α} {fault : Fault}
    (made : TimerHandle.create reg length repeats action s = (.error fault, after)) :
    slots after = slots s := by
  unfold TimerHandle.create at made
  have asked := k.asked s
  split at made
  · rename_i s' answer
    rw [answer] at asked
    obtain rfl : s' = after := (Prod.mk.inj made).2
    exact asked
  · rename_i s' answer
    rw [answer] at asked
    split at made
    · rename_i fault' s'' result
      obtain rfl : s'' = after := (Prod.mk.inj made).2
      exact (k.refused _ _ _ _ _ _ result).trans asked
    · cases made

theorem setLength (k : reg.Keeps slots) (t : TimerHandle) (length : Span) (s : σ) :
    (t.setLength reg length s).2.1.id = t.id ∧
      (slots (t.setLength reg length s).2.2 t.id).isSome = (slots s t.id).isSome ∧
      ∀ other, other ≠ t.id → slots (t.setLength reg length s).2.2 other = slots s other := by
  have asked := k.asked s
  unfold TimerHandle.setLength
  split
  · rename_i s' answer
    rw [answer] at asked
    exact ⟨rfl, by rw [← asked], fun other _ => congrFun asked other⟩
  · rename_i s' answer
    rw [answer] at asked
    obtain ⟨kept, others⟩ := k.set t.id length s'
    rw [← asked]
    split
    all_goals
      rename_i result
      rw [result] at kept others
      exact ⟨rfl, kept, others⟩

theorem delete (k : reg.Keeps slots) (t : TimerHandle) (s : σ) :
    slots (t.delete reg s).2 t.id = none ∧
      ∀ other, other ≠ t.id → slots (t.delete reg s).2 other = slots s other := by
  obtain ⟨gone, others⟩ := k.deleted t.id (reg.log (.timerDeleting t.id) s)
  rw [k.logged] at others
  exact ⟨gone, others⟩

theorem drop (k : reg.Keeps slots) (t : TimerHandle) {unwinding : Bool}
    (checked : unwinding = false → (reg.inLogicThread s).1 = true) :
    slots (t.drop reg unwinding s).2 t.id = none ∧
      ∀ other, other ≠ t.id → slots (t.drop reg unwinding s).2 other = slots s other := by
  unfold TimerHandle.drop
  cases unwinding with
  | true => exact k.delete t s
  | false =>
    have asked := k.asked s
    have inside := checked rfl
    simp only [Bool.false_eq_true, if_false]
    split
    · rename_i s' answer
      rw [answer] at inside
      cases inside
    · rename_i s' answer
      rw [answer] at asked
      rw [← asked]
      exact k.delete t s'

end Registry.Keeps

end

namespace Pool

section
variable {σ α β : Type} {slots : σ → TimerId → Option β} {reg : Bool → Registry σ α} {p q : Pool σ}
    {place : Option Nat}

theorem ids_at {i : Nat} {t : TimerHandle} (here : p.live[i]? = some t) : p.ids[i]? = some t.id := by
  simp [ids, here]

theorem mem_ids {i : Nat} {t : TimerHandle} (here : p.live[i]? = some t) : t.id ∈ p.ids :=
  List.mem_of_getElem? (ids_at here)

theorem Matched.apart (m : p.Matched slots) {i j : Nat} {t u : TimerHandle} (mine : p.live[i]? = some t)
    (other : p.live[j]? = some u) (ne : i ≠ j) : u.id ≠ t.id := by
  intro same
  have first := ids_at mine
  have second := ids_at other
  rw [same] at second
  obtain ⟨bound, _⟩ := List.getElem?_eq_some_iff.mp first
  exact ne ((List.getElem?_inj bound m.nodup).mp (first.trans second.symm))

theorem ids_append (live : List TimerHandle) (t : TimerHandle) (after : σ) :
    ids ⟨after, live ++ [t]⟩ = live.map TimerHandle.id ++ [t.id] := by
  simp [ids]

theorem ids_set {i : Nat} {t u : TimerHandle} (here : p.live[i]? = some t) (after : σ) (same : u.id = t.id) :
    ids ⟨after, p.live.set i u⟩ = p.ids := by
  obtain ⟨bound, is⟩ := List.getElem?_eq_some_iff.mp (ids_at here)
  rw [ids, List.map_set, same, ← is]
  exact List.set_getElem_self bound

theorem Matched.ids_erase (m : p.Matched slots) {i : Nat} {t : TimerHandle} (here : p.live[i]? = some t)
    (after : σ) : ids ⟨after, p.live.eraseIdx i⟩ = p.ids.erase t.id := by
  obtain ⟨bound, is⟩ := List.getElem?_eq_some_iff.mp (ids_at here)
  rw [← is, m.nodup.erase_getElem]
  exact (List.eraseIdx_map TimerHandle.id p.live i).symm

theorem Works.matched (k : ∀ unwinding, (reg unwinding).Keeps slots) (w : Works slots reg p place q)
    (m : p.Matched slots) : q.Matched slots := by
  cases w with
  | @creates t after unwinding length repeats action made fresh =>
    obtain ⟨registered, others⟩ := (k unwinding).create_ok made
    have new : t.id ∉ p.ids := by
      rw [← m.slots, fresh]
      simp
    refine ⟨fun id => ?_, ?_⟩
    · rw [ids_append, List.mem_append, List.mem_singleton]
      by_cases same : id = t.id
      · simp [same, registered]
      · rw [others id same, m.slots]
        simp [same, Pool.ids]
    · rw [ids_append]
      exact List.concat_eq_append ▸ m.nodup.concat new
  | fails unwinding length repeats action made =>
    refine ⟨fun id => ?_, m.nodup⟩
    rw [(k unwinding).create_error made]
    exact m.slots id
  | @sets place t unwinding length here =>
    obtain ⟨same, kept, others⟩ := (k unwinding).setLength t length p.registry
    have ids := ids_set here (t.setLength (reg unwinding) length p.registry).2.2 same
    refine ⟨fun id => ?_, ids ▸ m.nodup⟩
    rw [ids, ← m.slots]
    by_cases own : id = t.id
    · rw [own, kept]
    · rw [others id own]
  | @drops place t unwinding here checked =>
    obtain ⟨gone, others⟩ := (k unwinding).drop t checked
    have left := m.ids_erase here (t.drop (reg unwinding) unwinding p.registry).2
    refine ⟨fun id => ?_, left ▸ m.nodup.erase t.id⟩
    rw [left, m.nodup.mem_erase_iff, ← m.slots]
    by_cases own : id = t.id
    · simp [own, gone]
    · simp [others id own, own]

theorem Works.others (k : ∀ unwinding, (reg unwinding).Keeps slots) (w : Works slots reg p place q)
    (m : p.Matched slots) {i : Nat} {t : TimerHandle} (here : p.live[i]? = some t) (ne : place ≠ some i) :
    slots q.registry t.id = slots p.registry t.id := by
  cases w with
  | @creates u after unwinding length repeats action made fresh =>
    have used := (m.slots t.id).mpr (mem_ids here)
    refine ((k unwinding).create_ok made).2 t.id ?_
    intro same
    rw [same, fresh] at used
    cases used
  | fails unwinding length repeats action made => rw [(k unwinding).create_error made]
  | @sets place u unwinding length mine =>
    have other := m.apart mine here fun same => ne (congrArg some same)
    exact ((k unwinding).setLength u length p.registry).2.2 t.id other
  | @drops place u unwinding mine checked =>
    have other := m.apart mine here fun same => ne (congrArg some same)
    exact ((k unwinding).drop u checked).2 t.id other

theorem Works.takes (k : ∀ unwinding, (reg unwinding).Keeps slots) (w : Works slots reg p place q)
    (m : p.Matched slots) {id : TimerId} (free : slots p.registry id = none)
    (used : (slots q.registry id).isSome = true) : place = none ∧ ∃ t, q.live = p.live ++ [t] ∧ t.id = id := by
  have taken := ((w.matched k m).slots id).mp used
  have new : id ∉ p.ids := by
    rw [← m.slots, free]
    simp
  cases w with
  | @creates t after unwinding length repeats action made fresh =>
    rw [ids_append, List.mem_append, List.mem_singleton] at taken
    rcases taken with old | rfl
    · exact absurd old new
    · exact ⟨rfl, t, rfl, rfl⟩
  | fails unwinding length repeats action made => exact absurd taken new
  | @sets place t unwinding length here =>
    rw [ids_set here _ ((k unwinding).setLength t length p.registry).1] at taken
    exact absurd taken new
  | @drops place t unwinding here checked =>
    rw [m.ids_erase here] at taken
    exact absurd (List.mem_of_mem_erase taken) new

theorem Run.matched {s : σ} (k : ∀ unwinding, (reg unwinding).Keeps slots) (r : Run slots reg s p) :
    p.Matched slots := by
  induction r with
  | start empty => exact ⟨fun id => by simp [empty id, ids], List.nodup_nil⟩
  | works _ work ih => exact work.matched k ih
  | rests _ same ih => exact ⟨fun id => (same id).symm ▸ ih.slots id, ih.nodup⟩

end

end Pool

section
variable {σ α β : Type} {slots : σ → TimerId → Option β} {reg : Bool → Registry σ α} {p : Pool σ} {s : σ}

/-- At every moment the slots in use are those of the existing timers, all different. An operation keeps the
slots of all other timers, takes a free slot only for a new timer, and frees only that of a dropped one. -/
theorem timers_match_slots (k : ∀ unwinding, (reg unwinding).Keeps slots) (r : Pool.Run slots reg s p) :
    (∀ id, (slots p.registry id).isSome = true ↔ id ∈ p.live.map TimerHandle.id) ∧
    (p.live.map TimerHandle.id).Nodup ∧
    ∀ place q, Pool.Works slots reg p place q →
      (∀ i t, p.live[i]? = some t → place ≠ some i → slots q.registry t.id = slots p.registry t.id) ∧
      ∀ id, slots p.registry id = none → (slots q.registry id).isSome = true →
        place = none ∧ ∃ t, q.live = p.live ++ [t] ∧ t.id = id := by
  have matched := r.matched k
  refine ⟨matched.slots, matched.nodup, fun place q work => ⟨?_, ?_⟩⟩
  · intro i t here ne
    exact work.others k matched here ne
  · intro id free used
    exact work.takes k matched free used

end

namespace TimerTable

def slot? (t : TimerTable) (id : TimerId) : Option TimerEntry := t.entries.lookup id.number

theorem lookup_first (id key : Nat) (entry : TimerEntry) (rest : List (Nat × TimerEntry)) :
    ((id, entry) :: rest).lookup key = if key = id then some entry else rest.lookup key := by
  by_cases same : key = id
  · rw [List.lookup_cons, same, beq_self_eq_true, if_pos rfl]
  · rw [List.lookup_cons, beq_false_of_ne same, if_neg same]

theorem lookup_insert (id key : Nat) (entry : TimerEntry) (entries : List (Nat × TimerEntry)) :
    (insert id entry entries).lookup key = if key = id then some entry else entries.lookup key := by
  induction entries with
  | nil => exact lookup_first id key entry []
  | cons first rest ih =>
    obtain ⟨k, e⟩ := first
    simp only [insert]
    split
    · exact lookup_first id key entry _
    · split
      · rename_i known
        subst known
        rw [lookup_first, lookup_first]
        split <;> rfl
      · rename_i apart
        rw [lookup_first, lookup_first, ih]
        split
        · rename_i here
          rw [here, if_neg (Ne.symm apart)]
        · rfl

theorem lookup_remove (id key : Nat) (entries : List (Nat × TimerEntry)) :
    (entries.filter fun (k, _) => k != id).lookup key = if key = id then none else entries.lookup key := by
  induction entries with
  | nil => simp
  | cons first rest ih =>
    obtain ⟨k, e⟩ := first
    by_cases gone : k = id
    · rw [List.filter_cons_of_neg (by simp [gone]), ih, lookup_first, gone]
      split <;> rfl
    · rw [List.filter_cons_of_pos (by simp [gone]), lookup_first, lookup_first, ih]
      split
      · rename_i here
        rw [here, if_neg gone]
      · rfl

theorem registry_keeps (unwinding : Bool) : (registry unwinding).Keeps slot? := by
  constructor
  · exact fun _ => rfl
  · exact fun _ _ => rfl
  · intro length repeats action t fault after made
    simp only [registry] at made
    split at made
    · obtain ⟨_, rfl⟩ := Prod.mk.inj made
      rfl
    · cases made
  · intro length repeats action t id after made
    simp only [registry] at made
    split at made
    · cases made
    · obtain ⟨id', rfl⟩ := Prod.mk.inj made
      obtain rfl := Except.ok.inj id'
      have placed (key : Nat) := lookup_insert t.nextId key ⟨repeats, some ⟨action, 0⟩⟩ t.entries
      refine ⟨?_, fun other ne => ?_⟩
      · exact (congrArg Option.isSome ((placed t.nextId).trans (if_pos rfl))).trans rfl
      · refine (placed other.number).trans (if_neg fun same => ne ?_)
        cases other
        exact congrArg TimerId.mk same
  · intro id length t
    exact ⟨rfl, fun _ _ => rfl⟩
  · intro id t
    refine ⟨(lookup_remove id.number id.number t.entries).trans (if_pos rfl), fun other ne => ?_⟩
    refine (lookup_remove id.number other.number t.entries).trans (if_neg fun same => ne ?_)
    cases other
    cases id
    exact congrArg TimerId.mk same

end TimerTable

def TimerTable.sample : TimerTable := { TimerTable.initial true 7 with failOn := some .delete }

def Pool.sampleMade : Pool TimerTable :=
  let one := (TimerHandle.create (TimerTable.registry false) ⟨1, 0⟩ false .done .sample).2
  ⟨(TimerHandle.create (TimerTable.registry false) ⟨2, 0⟩ true .done one).2,
    [⟨⟨7⟩, ⟨1, 0⟩, false⟩, ⟨⟨8⟩, ⟨2, 0⟩, true⟩]⟩

theorem Pool.run_sampleMade : Pool.Run TimerTable.slot? TimerTable.registry .sample .sampleMade := by
  have start : Pool.Run TimerTable.slot? TimerTable.registry .sample ⟨.sample, []⟩ := .start fun _ => rfl
  have one := start.works (.creates false ⟨1, 0⟩ false .done rfl rfl)
  exact one.works (.creates false ⟨2, 0⟩ true .done rfl rfl)

theorem timers_match_slots_sample :
    Pool.sampleMade.ids = [⟨7⟩, ⟨8⟩] ∧
      ∃ q, Pool.Works TimerTable.slot? TimerTable.registry .sampleMade (some 0) q ∧
        (⟨⟨7⟩, ⟨1, 0⟩, false⟩ : TimerHandle).drop (TimerTable.registry false) false Pool.sampleMade.registry
          = (some (.registryFailed .delete), q.registry) ∧
        (∀ id, (q.registry.slot? id).isSome = true ↔ id = ⟨8⟩) ∧
        q.registry.slot? ⟨8⟩ = Pool.sampleMade.registry.slot? ⟨8⟩ := by
  have keeps := TimerTable.registry_keeps
  have work : Pool.Works TimerTable.slot? TimerTable.registry .sampleMade (some 0) _ :=
    .drops false (t := ⟨⟨7⟩, ⟨1, 0⟩, false⟩) rfl fun _ => rfl
  obtain ⟨_, _, others⟩ := timers_match_slots keeps Pool.run_sampleMade
  obtain ⟨slots, _, _⟩ := timers_match_slots keeps (Pool.run_sampleMade.works work)
  refine ⟨rfl, _, work, rfl, fun id => ?_, ?_⟩
  · rw [slots]
    exact List.mem_singleton
  · exact (others _ _ work).1 1 ⟨⟨8⟩, ⟨2, 0⟩, true⟩ rfl (by decide)

end FrameHost
