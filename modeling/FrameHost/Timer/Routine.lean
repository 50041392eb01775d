import FrameHost.Journal
import FrameHost.Timer.Basic

/-!
Routines over timers, and a registry with a table of entries that fails on request. A fired action is a
routine and may register further actions under its own number, so `Routine.exec` takes fuel.
-/
namespace FrameHost

inductive TimerOp where
  /-- Shown with the number of the call, in an action only. -/
  | note (text : String)
  | set (slot : Nat) (length : Span)
  | drop (slot : Nat)
  | fire (id : Nat)
  | logic (on : Bool)
  | nextId (id : Nat)
  /-- The registry call that fails from now on. -/
  | failOn (call : Option TimerCall)
  | raise (message : String)
  /-- Sets the length of the innermost scope's timer. -/
  | setLocal (length : Span)
  deriving DecidableEq, Repr

inductive Routine where
  | done
  | act (op : TimerOp) (next : Routine)
  /-- A timer in the next slot. -/
  | create (length : Span) (repeats : Bool) (action next : Routine)
  /-- A timer that lives as long as the body runs. -/
  | scope (length : Span) (repeats : Bool) (action body next : Routine)
  /-- Catches the fault of each step of the body on its own. -/
  | catching (body next : Routine)
  deriving DecidableEq, Inhabited, Repr

structure TimerAction where
  routine : Routine
  calls : Nat
  deriving DecidableEq, Repr

/-- The action is absent while it runs and after a single shot. -/
structure TimerEntry where
  repeats : Bool
  action : Option TimerAction
  deriving DecidableEq, Repr

structure TimerTable where
  inLogic : Bool
  nextId : Nat
  failOn : Option TimerCall
  /-- By ascending number. -/
  entries : List (Nat × TimerEntry)
  /-- Newest first. -/
  journal : List Event
  deriving DecidableEq, Repr

namespace TimerTable

def initial (inLogic : Bool) (nextId : Nat) : TimerTable := ⟨inLogic, nextId, none, [], []⟩

def record (t : TimerTable) (e : Event) : TimerTable := { t with journal := e :: t.journal }
def say (t : TimerTable) (text : String) : TimerTable := t.record (.said text)

def insert (id : Nat) (entry : TimerEntry) : List (Nat × TimerEntry) → List (Nat × TimerEntry)
  | [] => [(id, entry)]
  | (k, e) :: rest =>
      if id < k then (id, entry) :: (k, e) :: rest
      else if id = k then (id, entry) :: rest
      else (k, e) :: insert id entry rest

def put (t : TimerTable) (id : Nat) (entry : TimerEntry) : TimerTable :=
  { t with entries := insert id entry t.entries }

def remove (t : TimerTable) (id : Nat) : TimerTable :=
  { t with entries := t.entries.filter fun (k, _) => k != id }

def failure? (t : TimerTable) (call : TimerCall) : Option Fault :=
  if t.failOn = some call then some (.registryFailed call) else none

/-- The registry of the table. A failing `new` adds no entry, a failing `delete` has removed its entry, and
no call fails while a fault unwinds. -/
def registry (unwinding : Bool) : Registry TimerTable Routine where
  inLogicThread t := (t.inLogic, t.say s!"logic? {t.inLogic}")
  new length repeats action t :=
    let t := t.say s!"new {t.nextId} {length.seconds} {length.nanos} {repeats}"
    match t.failure? .new with
    | some fault => (.error fault, t)
    | none => (.ok ⟨t.nextId⟩,
        { t with nextId := (t.nextId + 1) % 0x100000000 }.put t.nextId ⟨repeats, some ⟨action, 0⟩⟩)
  set id length t :=
    let t := t.say s!"set {id.number} {length.seconds} {length.nanos}"
    (if unwinding then none else t.failure? .set, t)
  delete id t :=
    let t := (t.say s!"delete {id.number}").remove id.number
    (if unwinding then none else t.failure? .delete, t)
  log r t := t.record (.log r)

end TimerTable

structure TimerState where
  table : TimerTable
  slots : List (Option TimerHandle)
  /-- The timer of the innermost scope. -/
  current : Option TimerHandle
  deriving DecidableEq, Repr

namespace TimerState

def initial (inLogic : Bool) (nextId : Nat) : TimerState := ⟨.initial inLogic nextId, [], none⟩

def say (s : TimerState) (text : String) : TimerState := { s with table := s.table.say text }

def slot? (s : TimerState) (slot : Nat) : Option TimerHandle := s.slots[slot]?.join

def setLength (s : TimerState) (slot : Nat) (length : Span) : TimerState × Option Fault :=
  match s.slot? slot with
  | none => (s, none)
  | some t =>
      let (fault, t, table) := t.setLength (TimerTable.registry false) length s.table
      ({ s with table, slots := s.slots.set slot (some t) }, fault)

def setLocal (s : TimerState) (length : Span) : TimerState × Option Fault :=
  match s.current with
  | none => (s, none)
  | some t =>
      let (fault, t, table) := t.setLength (TimerTable.registry false) length s.table
      let s := { s with table, current := some t }
      match fault with
      | some fault => (s, some fault)
      | none => (s.say s!"local [{t.id.number},[{t.length.seconds},{t.length.nanos}],{t.repeats}]", none)

def dropSlot (s : TimerState) (slot : Nat) : TimerState × Option Fault :=
  match s.slot? slot with
  | none => (s, none)
  | some t =>
      let (fault, table) := t.drop (TimerTable.registry false) false s.table
      ({ s with table, slots := s.slots.set slot none }, fault)

def create (s : TimerState) (length : Span) (repeats : Bool) (action : Routine) :
    Except Fault TimerHandle × TimerState :=
  let (result, table) := TimerHandle.create (TimerTable.registry false) length repeats action s.table
  (result, { s with table })

def appendSlot (s : TimerState) (length : Span) (repeats : Bool) (action : Routine) :
    TimerState × Option Fault :=
  match s.create length repeats action with
  | (.error fault, s) => (s, some fault)
  | (.ok t, s) => ({ s with slots := s.slots ++ [some t] }, none)

def leaveScope (s : TimerState) (outer : Option TimerHandle) (fault : Option Fault) :
    TimerState × Option Fault :=
  match s.current with
  | none => ({ s with current := outer }, fault)
  | some t =>
      let (dropFault, table) := t.drop (TimerTable.registry fault.isSome) fault.isSome s.table
      ({ s with table, current := outer }, fault.or dropFault)

def takeAction (s : TimerState) (id : Nat) : Option (TimerAction × TimerState) := do
  let entry ← s.table.entries.lookup id
  let action ← entry.action
  return ({ action with calls := action.calls + 1 },
    { s with table := s.table.put id { entry with action := none }, current := none })

def putBack (s : TimerState) (id : Nat) (action : TimerAction) : TimerState :=
  match s.table.entries.lookup id with
  | some ⟨true, none⟩ => { s with table := s.table.put id ⟨true, some action⟩ }
  | _ => s

end TimerState

structure RoutineMode where
  caught : Bool
  call : Option Nat

def RoutineMode.settle (mode : RoutineMode) (next : TimerState → Option (TimerState × Option Fault)) :
    TimerState × Option Fault → Option (TimerState × Option Fault)
  | (s, none) => next s
  | (s, some fault) =>
      if mode.caught then next (s.say ("caught: " ++ fault.message)) else some (s, some fault)

def TimerOp.perform (mode : RoutineMode) (s : TimerState) : TimerOp → TimerState × Option Fault
  | note text => (match mode.call with | some n => s.say (text ++ s!" #{n}") | none => s, none)
  | set slot length => s.setLength slot length
  | drop slot => s.dropSlot slot
  | fire _ => (s, none)
  | logic on => ({ s with table := { s.table with inLogic := on } }, none)
  | nextId id => ({ s with table := { s.table with nextId := id } }, none)
  | failOn call => ({ s with table := { s.table with failOn := call } }, none)
  | raise message => (s, some (.raised message))
  | setLocal length => s.setLocal length

/-- The state after a routine and the fault that escaped it; `none` if the fuel ran out. -/
def Routine.exec : Nat → RoutineMode → Routine → TimerState → Option (TimerState × Option Fault)
  | 0, _, _, _ => none
  | _ + 1, _, done, s => some (s, none)
  | fuel + 1, mode, act (.fire id) next, s =>
      match s.takeAction id with
      | none => exec fuel mode next s
      | some (action, inner) => do
          let (after, fault) ← exec fuel ⟨false, some action.calls⟩ action.routine inner
          let after := { after with current := s.current }
          mode.settle (exec fuel mode next)
            (if fault.isNone then (after.putBack id action, none) else (after, fault))
  | fuel + 1, mode, act op next, s => mode.settle (exec fuel mode next) (op.perform mode s)
  | fuel + 1, mode, create length repeats action next, s =>
      mode.settle (exec fuel mode next) (s.appendSlot length repeats action)
  | fuel + 1, mode, scope length repeats action body next, s =>
      match s.create length repeats action with
      | (.error fault, s) => mode.settle (exec fuel mode next) (s, some fault)
      | (.ok t, s) => do
          let (after, fault) ← exec fuel ⟨false, none⟩ body { s with current := some t }
          mode.settle (exec fuel mode next) (after.leaveScope s.current fault)
  | fuel + 1, mode, catching body next, s => do
      mode.settle (exec fuel mode next) (← exec fuel ⟨true, none⟩ body s)
termination_by structural fuel => fuel

end FrameHost
