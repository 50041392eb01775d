import FrameHost.Gate.Script

/-!
Guards of one gate created and dropped in any order. Each guard restores the value it saved. Among guards
that exist together only the eldest saved a closed gate, so the gate is open exactly while a guard exists if
and only if the eldest is always dropped last.
-/
namespace FrameHost

inductive GuardMove where
  | creates
  | drops (slot : Nat)
  deriving DecidableEq, Repr

def GuardMove.op : GuardMove → GateOp
  | creates => .openSlot
  | drops slot => .closeSlot slot

/-- The state after guards were created and dropped, latest first, starting with a closed gate. -/
def guarded : List GuardMove → GateState
  | [] => .initial
  | m :: older => ((guarded older).perform m.op).1

namespace GateState

def kept? (s : GateState) (slot : Nat) : Option Bool := s.slots[slot]?.join

def Lives (s : GateState) (slot : Nat) : Prop := (s.kept? slot).isSome = true

def GateMatchesGuards (s : GateState) : Prop := s.gate.allowed = true ↔ ∃ slot, s.Lives slot

def ElderRemains (s : GateState) (slot : Nat) : Prop :=
  s.Lives slot → (∃ other, other ≠ slot ∧ s.Lives other) → ∃ elder, elder < slot ∧ s.Lives elder

/-- The gate matches the guards, and only the eldest guard saved a closed gate. -/
structure EldestOpens (s : GateState) : Prop where
  gateMatchesGuards : s.GateMatchesGuards
  leader : ∀ slot, s.Lives slot → ∃ eldest, s.kept? eldest = some false ∧
    ∀ other saved, other ≠ eldest → s.kept? other = some saved → eldest < other ∧ saved = true

section
variable {s : GateState} {slot : Nat} {saved : Bool}

theorem lives_of_kept (kept : s.kept? slot = some saved) : s.Lives slot := by
  rw [Lives, kept]
  rfl

theorem kept_of_lives (lives : s.Lives slot) : ∃ saved, s.kept? slot = some saved :=
  Option.isSome_iff_exists.mp lives

theorem lt_of_kept (kept : s.kept? slot = some saved) : slot < s.slots.length := by
  refine Nat.lt_of_not_le fun beyond => ?_
  rw [kept?, List.getElem?_eq_none beyond] at kept
  cases kept

theorem kept?_opened (s : GateState) (other : Nat) :
    (s.perform .openSlot).1.kept? other
      = if other = s.slots.length then some s.gate.allowed else s.kept? other := by
  have slots : (s.perform .openSlot).1.slots = s.slots ++ [some s.gate.allowed] := rfl
  rw [kept?, slots]
  by_cases new : other = s.slots.length
  · simp [new]
  · rw [if_neg new, kept?]
    rcases Nat.lt_or_gt_of_ne new with below | above
    · rw [List.getElem?_append_left below]
    · rw [List.getElem?_eq_none (by simp; omega), List.getElem?_eq_none (Nat.le_of_lt above)]

theorem perform_closed (kept : s.kept? slot = some saved) :
    (s.perform (.closeSlot slot)).1
      = { s with gate := s.gate.leave saved, slots := s.slots.set slot none } := by
  have found : s.slots[slot]?.join = some saved := kept
  simp only [perform, found]

theorem perform_closed_empty (empty : s.kept? slot = none) : (s.perform (.closeSlot slot)).1 = s := by
  have found : s.slots[slot]?.join = none := empty
  simp only [perform, found]

theorem kept?_closed (s : GateState) (slot other : Nat) :
    (s.perform (.closeSlot slot)).1.kept? other = if other = slot then none else s.kept? other := by
  cases kept : s.kept? slot with
  | none =>
    rw [perform_closed_empty kept]
    split
    · rename_i same
      rw [same, kept]
    · rfl
  | some saved =>
    rw [perform_closed kept, kept?]
    split
    · rename_i same
      subst same
      rw [List.getElem?_set_self (lt_of_kept kept)]
      rfl
    · rename_i apart
      rw [List.getElem?_set_ne (Ne.symm apart)]
      rfl

theorem EldestOpens.initial : EldestOpens initial := by
  have empty (slot : Nat) : ¬ GateState.initial.Lives slot := by
    simp [Lives, kept?, GateState.initial]
  have shut : GateState.initial.gate.allowed = false := rfl
  exact ⟨by simp [GateMatchesGuards, empty, shut], fun slot lives => absurd lives (empty slot)⟩

theorem EldestOpens.opened (h : s.EldestOpens) : (s.perform .openSlot).1.EldestOpens := by
  have new : (s.perform .openSlot).1.kept? s.slots.length = some s.gate.allowed := by simp [kept?_opened]
  have isOpen : (s.perform .openSlot).1.gate.allowed = true := rfl
  refine ⟨⟨fun _ => ⟨_, lives_of_kept new⟩, fun _ => isOpen⟩, fun _ _ => ?_⟩
  cases found : s.gate.allowed with
  | true =>
    obtain ⟨slot, lives⟩ := h.gateMatchesGuards.mp found
    obtain ⟨eldest, kept, others⟩ := h.leader slot lives
    have bound := lt_of_kept kept
    refine ⟨eldest, by rw [kept?_opened, if_neg (by omega), kept], fun other saved apart mine => ?_⟩
    rw [kept?_opened] at mine
    split at mine
    · rename_i last
      rw [found] at mine
      exact ⟨last ▸ bound, (Option.some.inj mine).symm⟩
    · exact others other saved apart mine
  | false =>
    refine ⟨s.slots.length, by rw [new, found], fun other saved apart mine => ?_⟩
    rw [kept?_opened, if_neg apart] at mine
    have isOpen := h.gateMatchesGuards.mpr ⟨other, lives_of_kept mine⟩
    rw [found] at isOpen
    cases isOpen

theorem lives_closed (slot other : Nat) :
    (s.perform (.closeSlot slot)).1.Lives other ↔ other ≠ slot ∧ s.Lives other := by
  rw [Lives, kept?_closed]
  split
  · rename_i same
    simp [same]
  · rename_i apart
    simp [apart, Lives]

theorem closed_allowed (kept : s.kept? slot = some saved) :
    (s.perform (.closeSlot slot)).1.gate.allowed = saved := by
  rw [perform_closed kept]
  rfl

theorem closed_eldest (first : s.kept? slot = some false)
    (others : ∀ other saved, other ≠ slot → s.kept? other = some saved → slot < other ∧ saved = true) :
    (s.ElderRemains slot ↔ (s.perform (.closeSlot slot)).1.GateMatchesGuards) ∧
      (s.ElderRemains slot → (s.perform (.closeSlot slot)).1.EldestOpens) := by
  have put := closed_allowed first
  have no_elder (elder : Nat) (below : elder < slot) : ¬ s.Lives elder := by
    intro mine
    obtain ⟨saved, found⟩ := kept_of_lives mine
    have above := (others elder saved (by omega) found).1
    omega
  have alone (leaves : s.ElderRemains slot) (other : Nat) :
      ¬ (s.perform (.closeSlot slot)).1.Lives other := by
    rw [lives_closed]
    rintro ⟨apart, mine⟩
    obtain ⟨elder, below, there⟩ := leaves (lives_of_kept first) ⟨other, apart, mine⟩
    exact no_elder elder below there
  have gateMatchesGuards (leaves : s.ElderRemains slot) :
    (s.perform (.closeSlot slot)).1.GateMatchesGuards := by
    simp [GateMatchesGuards, put, alone leaves]
  refine ⟨⟨gateMatchesGuards, fun shut _ left => ?_⟩, fun leaves => ⟨gateMatchesGuards leaves, ?_⟩⟩
  · obtain ⟨other, apart, mine⟩ := left
    have isOpen := shut.mpr ⟨other, (lives_closed slot other).mpr ⟨apart, mine⟩⟩
    rw [put] at isOpen
    cases isOpen
  · intro other mine
    exact absurd mine (alone leaves other)

theorem closed_younger {eldest : Nat} (first : s.kept? eldest = some false)
    (others : ∀ other saved, other ≠ eldest → s.kept? other = some saved → eldest < other ∧ saved = true)
    (kept : s.kept? slot = some saved) (apart : slot ≠ eldest) :
    s.ElderRemains slot ∧ (s.perform (.closeSlot slot)).1.EldestOpens := by
  obtain ⟨younger, rfl⟩ := others slot saved apart kept
  have stays : (s.perform (.closeSlot slot)).1.kept? eldest = some false := by
    rw [kept?_closed, if_neg (Ne.symm apart), first]
  refine ⟨fun _ _ => ⟨eldest, younger, lives_of_kept first⟩,
    ⟨fun _ => ⟨eldest, lives_of_kept stays⟩, fun _ => closed_allowed kept⟩, fun _ _ => ⟨eldest, stays, ?_⟩⟩
  intro other saved apart mine
  rw [kept?_closed] at mine
  split at mine
  · cases mine
  · exact others other saved apart mine

/-- Dropping a guard keeps the gate matched exactly if it is not the eldest of several. -/
theorem EldestOpens.closed (h : s.EldestOpens) (slot : Nat) :
    (s.ElderRemains slot ↔ (s.perform (.closeSlot slot)).1.GateMatchesGuards) ∧
      (s.ElderRemains slot → (s.perform (.closeSlot slot)).1.EldestOpens) := by
  cases kept : s.kept? slot with
  | none =>
    have gone : ¬ s.Lives slot := by simp [Lives, kept]
    have fine : s.ElderRemains slot := fun lives => absurd lives gone
    rw [perform_closed_empty kept]
    exact ⟨⟨fun _ => h.gateMatchesGuards, fun _ => fine⟩, fun _ => h⟩
  | some saved =>
    obtain ⟨eldest, first, others⟩ := h.leader slot (lives_of_kept kept)
    by_cases same : slot = eldest
    · subst same
      exact closed_eldest first others
    · obtain ⟨leaves, eldestOpens⟩ := closed_younger first others kept same
      exact ⟨⟨fun _ => eldestOpens.gateMatchesGuards, fun _ => leaves⟩, fun _ => eldestOpens⟩

end

end GateState

section
variable {moves : List GuardMove}

theorem eldestOpens_of_orderly
    (orderly : ∀ slot older, .drops slot :: older <:+ moves → (guarded older).ElderRemains slot) :
    (guarded moves).EldestOpens := by
  induction moves with
  | nil => exact .initial
  | cons m older ih =>
    have before := ih fun slot earlier suffix => orderly slot earlier (suffix.trans (List.suffix_cons m older))
    cases m with
    | creates => exact before.opened
    | drops slot => exact (before.closed slot).2 (orderly slot older (List.suffix_refl _))

theorem orderly_of_gateMatchesGuards
    (gateMatchesGuards : ∀ older, older <:+ moves → (guarded older).GateMatchesGuards) :
    ∀ slot older, .drops slot :: older <:+ moves → (guarded older).ElderRemains slot := by
  induction moves with
  | nil =>
    intro slot older suffix
    cases List.eq_nil_of_suffix_nil suffix
  | cons m rest ih =>
    have before := ih fun older suffix => gateMatchesGuards older (suffix.trans (List.suffix_cons m rest))
    intro slot older suffix
    rcases List.suffix_cons_iff.mp suffix with same | earlier
    · obtain ⟨rfl, rfl⟩ := List.cons.inj same
      exact ((eldestOpens_of_orderly before).closed slot).1.mpr (gateMatchesGuards _ (List.suffix_refl _))
    · exact before slot older earlier

theorem kept_since_created {slot : Nat} {saved : Bool} (kept : (guarded moves).kept? slot = some saved) :
    ∃ older, .creates :: older <:+ moves ∧ (guarded older).slots.length = slot ∧
      (guarded older).gate.allowed = saved := by
  induction moves with
  | nil => cases kept
  | cons m older ih =>
    have earlier (before : (guarded older).kept? slot = some saved) : ∃ since,
        .creates :: since <:+ m :: older ∧ (guarded since).slots.length = slot ∧
          (guarded since).gate.allowed = saved := by
      obtain ⟨since, suffix, place, found⟩ := ih before
      exact ⟨since, suffix.trans (List.suffix_cons m older), place, found⟩
    cases m with
    | creates =>
      have opened : ((guarded older).perform .openSlot).1.kept? slot = some saved := kept
      rw [GateState.kept?_opened] at opened
      split at opened
      · rename_i new
        exact ⟨older, List.suffix_refl _, new.symm, Option.some.inj opened⟩
      · exact earlier opened
    | drops gone =>
      have closed : ((guarded older).perform (.closeSlot gone)).1.kept? slot = some saved := kept
      rw [GateState.kept?_closed] at closed
      split at closed
      · cases closed
      · exact earlier closed

/-- The gate is open exactly while a guard exists, if and only if no guard is dropped that is the eldest of
several; in particular for guards dropped last in, first out. In any order, a guard restores the value the
gate had when that guard was created. -/
theorem gate_open_while_guarded (moves : List GuardMove) :
    ((∀ older, older <:+ moves →
        ((guarded older).gate.allowed = true ↔ ∃ slot, (guarded older).Lives slot)) ↔
      ∀ slot older, .drops slot :: older <:+ moves → (guarded older).ElderRemains slot) ∧
    ((∀ slot older, .drops slot :: older <:+ moves → (guarded older).Lives slot →
        ∀ other, (guarded older).Lives other → other ≤ slot) →
      ((guarded moves).gate.allowed = true ↔ ∃ slot, (guarded moves).Lives slot)) ∧
    ∀ slot, (guarded moves).Lives slot → ∃ older, .creates :: older <:+ moves ∧
      (guarded older).slots.length = slot ∧ (guarded (.drops slot :: moves)).gate = (guarded older).gate := by
  refine ⟨⟨orderly_of_gateMatchesGuards, fun orderly older suffix => ?_⟩,
    fun nested => ?_, fun slot lives => ?_⟩
  · exact (eldestOpens_of_orderly fun slot earlier before =>
      orderly slot earlier (before.trans suffix)).gateMatchesGuards
  · refine (eldestOpens_of_orderly fun slot older suffix lives left => ?_).gateMatchesGuards
    obtain ⟨other, apart, also⟩ := left
    have last := nested slot older suffix lives other also
    exact ⟨other, by omega, also⟩
  · obtain ⟨saved, kept⟩ := GateState.kept_of_lives lives
    obtain ⟨older, suffix, place, found⟩ := kept_since_created kept
    refine ⟨older, suffix, place, ?_⟩
    have dropped : (guarded (.drops slot :: moves)).gate = (guarded moves).gate.leave saved := by
      rw [guarded, GuardMove.op, GateState.perform_closed kept]
    rw [dropped, ← found]
    rfl

theorem gate_open_while_guarded_sample :
    ∀ older, older <:+ [.drops 0, .drops 2, .drops 1, .creates, .creates, .creates] →
      ((guarded older).gate.allowed = true ↔ ∃ slot, (guarded older).Lives slot) := by
  refine (gate_open_while_guarded _).1.mpr fun slot older suffix => ?_
  simp only [List.suffix_cons_iff, List.suffix_nil, List.cons.injEq, GuardMove.drops.injEq, reduceCtorEq,
    false_and, or_false] at suffix
  rcases suffix with ⟨rfl, rfl⟩ | ⟨rfl, rfl⟩ | ⟨rfl, rfl⟩
  · rintro _ ⟨other, apart, lives⟩
    match other, lives with
    | 0, _ => exact absurd rfl apart
    | 1, lives => cases lives
    | 2, lives => cases lives
    | _ + 3, lives => cases lives
  · exact fun _ _ => ⟨0, by decide, rfl⟩
  · exact fun _ _ => ⟨0, by decide, rfl⟩

theorem gate_closed_under_guard :
    ¬ ((guarded [.drops 0, .creates, .creates]).gate.allowed = true ↔
        ∃ slot, (guarded [.drops 0, .creates, .creates]).Lives slot) ∧
      ¬ ((guarded [.drops 1, .drops 0, .creates, .creates]).gate.allowed = true ↔
        ∃ slot, (guarded [.drops 1, .drops 0, .creates, .creates]).Lives slot) := by
  constructor
  · intro gateMatchesGuards
    have shut : (guarded [.drops 0, .creates, .creates]).gate.allowed = false := rfl
    rw [shut] at gateMatchesGuards
    cases gateMatchesGuards.mpr ⟨1, rfl⟩
  · intro gateMatchesGuards
    obtain ⟨slot, lives⟩ := gateMatchesGuards.mp rfl
    have empty : (guarded [.drops 1, .drops 0, .creates, .creates]).slots = [none, none] := rfl
    rw [GateState.Lives, GateState.kept?, empty] at lives
    match slot, lives with
    | 0, lives => cases lives
    | 1, lives => cases lives
    | _ + 2, lives => cases lives

end

end FrameHost
