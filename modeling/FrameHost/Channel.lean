import FrameHost.Script

/-!
The channel to the main thread: sender slots, one receiver, and the waiting runnables in dispatch order.
-/
namespace FrameHost

inductive Receiver where
  | free
  /-- Owned by the platform, which runs what waits once a frame. -/
  | platform
  | gone
  deriving DecidableEq, Repr

structure Channel where
  /-- The sender slots that are full. -/
  senders : List Bool
  receiver : Receiver
  waiting : List Runnable
  deriving DecidableEq, Repr

namespace Channel

def absent : Channel := ⟨[], .gone, []⟩

def new (receiver : Receiver) : Channel := ⟨[true], receiver, []⟩

def hasSender (c : Channel) (slot : Nat) : Bool := c.senders[slot]?.getD false

def pending? (c : Channel) : Option Nat :=
  if c.receiver = .free then some c.waiting.length else none

def cloneSender (c : Channel) : Channel := { c with senders := c.senders ++ [true] }
def dropSender (c : Channel) (slot : Nat) : Channel := { c with senders := c.senders.set slot false }

def senderOutline : Outline := .record "MainThreadSender" [("sender", .atom "Sender \x7b .. \x7d")] false
def receiverOutline : Outline :=
  .record "MainThreadReceiver" [("receiver", .atom "Receiver \x7b .. \x7d")] false

end Channel

end FrameHost
