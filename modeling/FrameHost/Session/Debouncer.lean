import FrameHost.Session.Report

/-!
A session with a debouncer and one saved copy of it.
-/
namespace FrameHost

inductive DebouncerRequest where
  | begin (target : Resolution)
  | tick (count : Nat) (keep : Option Nat)
  | setWindow (window : Nat)
  | save
  | restore
  | renew (window : Nat)
  | describe
  | unknown

structure DebouncerSession where
  debouncer : Debouncer
  saved : Option Debouncer

namespace DebouncerSession

def replace (s : DebouncerSession) : Except Fault Debouncer → Reply × DebouncerSession
  | .error fault => (.fault fault, s)
  | .ok debouncer => (.nothing, { s with debouncer })

def perform (r : DebouncerRequest) (s : DebouncerSession) : Reply × DebouncerSession :=
  match r with
  | .begin target => (.nothing, { s with debouncer := s.debouncer.begin target })
  | .tick count keep =>
      let (steps, debouncer) := s.debouncer.ticks count
      (.outcomes (steps.drop (steps.length - keep.getD steps.length)), { s with debouncer })
  | .setWindow window => s.replace (s.debouncer.setWindow window)
  | .save => (.nothing, { s with saved := some s.debouncer })
  | .restore => match s.saved with
      | none => (.flag false, s)
      | some debouncer => (.flag true, { s with debouncer })
  | .renew window => s.replace (Debouncer.new window)
  | .describe => (.text s.debouncer.outline.compact, s)
  | .unknown => (.unknown, s)

def run (window : Nat) (steps : List DebouncerRequest) :
    Except Fault (List (Report (Nat × Option Resolution))) :=
  (Debouncer.new window).map fun d =>
    (runSteps perform (fun _ => []) (fun _ s => (s.debouncer.frames, s.debouncer.target)) ⟨d, none⟩ steps).1

end DebouncerSession

end FrameHost
