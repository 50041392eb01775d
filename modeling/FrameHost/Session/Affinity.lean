import FrameHost.Affinity
import FrameHost.Session.Report

/-!
A session with affinities in numbered slots, queried from named threads.
-/
namespace FrameHost

inductive AffinityRequest where
  | unbound
  /-- Bound to the thread that makes it. -/
  | current (thread : String)
  | boundTo (thread : String)
  /-- Bound to a thread that has ended. -/
  | dead
  | bind (slot : Nat) (thread : String)
  | isCurrent (slot : Nat) (thread : String)
  | unknown

structure AffinitySession where
  threads : Threads
  slots : List Affinity

namespace AffinitySession

def append (s : AffinitySession) (threads : Threads) (a : Affinity) : Reply × AffinitySession :=
  (.count s.slots.length, ⟨threads, s.slots ++ [a]⟩)

def perform (r : AffinityRequest) (s : AffinitySession) : Reply × AffinitySession :=
  match r with
  | .unbound => s.append s.threads .unbound
  | .current name | .boundTo name =>
      let (threads, thread) := s.threads.named name
      s.append threads (.boundTo thread)
  | .dead =>
      let (threads, thread) := s.threads.fresh
      s.append threads (.boundTo thread)
  | .bind slot name =>
      let (threads, thread) := s.threads.named name
      match s.slots[slot]? with
      | none => (.missing .slot, { s with threads })
      | some a =>
          let a := a.bind thread
          (.flag (a.isCurrent thread), ⟨threads, s.slots.set slot a⟩)
  | .isCurrent slot name =>
      let (threads, thread) := s.threads.named name
      match s.slots[slot]? with
      | none => (.missing .slot, { s with threads })
      | some a => (.flag (a.isCurrent thread), { s with threads })
  | .unknown => (.unknown, s)

def run (steps : List AffinityRequest) : List (Report Unit) × List Bool :=
  let (reports, s) := runSteps perform (fun _ => []) (fun _ _ => ()) ⟨.initial, []⟩ steps
  (reports, s.slots.map (·.isCurrent Threads.main))

end AffinitySession

end FrameHost
