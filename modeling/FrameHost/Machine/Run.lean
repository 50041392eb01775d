import FrameHost.Machine.Weight

/-!
Runs of the machine, with its weight as fuel.
-/
namespace FrameHost

namespace Machine

def passes (m : Machine) : Nat := m.stack.countP Frame.isPass

def remaining (p : Nat) (m : Machine) : Nat := m.world.weight p + stackWeight p m.world.renderer m.stack

def weight (m : Machine) : Nat := m.remaining m.passes

def runFor : Nat → Machine → Machine
  | 0, m => m
  | fuel + 1, m => match m.stack with
      | [] => m
      | _ :: _ => runFor fuel m.step

def run (m : Machine) : Machine := runFor m.weight m

end Machine

end FrameHost
