import FrameHost.Text.Outline

/-!
Lengths of time in seconds and nanoseconds, and the numbers that name timers.
-/
namespace FrameHost

structure Span where
  seconds : Nat
  nanos : Nat
  deriving DecidableEq, Repr

structure TimerId where
  number : Nat
  deriving DecidableEq, Repr

def TimerId.name (id : TimerId) : String := "timer#" ++ toString id.number
def TimerId.outline (id : TimerId) : Outline := .tuple "TimerId" [.nat id.number]

namespace Span

def fractionText (part places : Nat) : String :=
  let ds := Nat.toDigits 10 part
  let padded := List.replicate (places - ds.length) '0' ++ ds
  match (padded.reverse.dropWhile (· == '0')).reverse with
  | [] => ""
  | shown => "." ++ String.ofList shown

def text (s : Span) : String :=
  if 0 < s.seconds then toString s.seconds ++ fractionText s.nanos 9 ++ "s"
  else if 1000000 ≤ s.nanos then toString (s.nanos / 1000000) ++ fractionText (s.nanos % 1000000) 6 ++ "ms"
  else if 1000 ≤ s.nanos then toString (s.nanos / 1000) ++ fractionText (s.nanos % 1000) 3 ++ "µs"
  else toString s.nanos ++ "ns"

end Span

end FrameHost
