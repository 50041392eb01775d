import FrameHost.Controls
import FrameHost.LoopFailure

/-!
The report of a session: one reply for each step, the trace of the step, and a view of the state after it.
-/
namespace FrameHost

inductive Missing where
  | host
  | platform
  | handle
  | sender
  | receiver
  | queue
  | slot
  | timer
  deriving DecidableEq, Repr

def Missing.text : Missing → String
  | host => "no host"
  | platform => "no platform"
  | handle => "no handle"
  | sender => "no sender"
  | receiver => "no receiver"
  | queue => "no queue"
  | slot => "no slot"
  | timer => "no timer"

inductive Reply where
  | nothing
  | flag (b : Bool)
  | flags (bs : List Bool)
  | count (n : Nat)
  | text (s : String)
  | outcomes (steps : List ResizeOutcome)
  | resolution (r : Resolution)
  | capabilities (c : Capabilities)
  /-- Whether the loop was asked to exit. -/
  | exit (asked : Bool)
  | failed (e : LoopFailure)
  /-- The texts of the two ends of a channel. -/
  | ends (sender receiver : Option Outline)
  /-- The calls waiting before a drain, the calls it ran, and whether each producer's order was kept. -/
  | tally (before ran : Nat) (ordered : Bool)
  | timer (id : TimerId) (length : Span) (repeats : Bool)
  | fault (f : Fault)
  | missing (what : Missing)
  /-- The step is not one of the session's. -/
  | unknown
  /-- The step did not come to an end. -/
  | endless

structure Report (σ : Type) where
  reply : Reply
  trace : List String
  state : σ

def runSteps {α σ τ : Type} (perform : α → σ → Reply × σ) (journal : σ → List Event) (view : α → σ → τ)
    (s : σ) : List α → List (Report τ) × σ
  | [] => ([], s)
  | step :: rest =>
      let (reply, after) := perform step s
      let news := (journal after).take ((journal after).length - (journal s).length)
      let (reports, last) := runSteps perform journal view after rest
      (⟨reply, traceOf news, view step after⟩ :: reports, last)

end FrameHost
