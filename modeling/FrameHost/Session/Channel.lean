import FrameHost.Session.Work

/-!
A session with a channel to the main thread and numbered sender slots.
-/
namespace FrameHost

inductive ChannelRequest where
  | send (sender : Nat) (label : Option String) (body : Script)
  | clone (sender : Nat)
  | dropSender (sender : Nat)
  | dropReceiver
  | run
  | act (body : Script)
  | describe (sender : Nat)
  | unknown

namespace ChannelSession

def perform (r : ChannelRequest) (w : World) : Reply × World :=
  match r with
  | .send sender label body =>
      if w.channel.hasSender sender then
        (.nothing, w.ticketed.dispatch (w.runnable label body))
      else (.missing .sender, w)
  | .clone sender =>
      if w.channel.hasSender sender then
        (.count w.channel.senders.length, { w with channel := w.channel.cloneSender })
      else (.missing .sender, w)
  | .dropSender sender =>
      (.flag (w.channel.hasSender sender), { w with channel := w.channel.dropSender sender })
  | .dropReceiver =>
      if w.channel.receiver = .free then (.flag true, w.dropReceiver) else (.flag false, w)
  | .run =>
      if w.channel.receiver = .free then
        let m := (w.round Threads.main []).run
        (m.reply, m.world)
      else (.missing .receiver, w)
  | .act body => w.act body
  | .describe sender =>
      (.ends (if w.channel.hasSender sender then some Channel.senderOutline else none)
        (if w.channel.receiver = .free then some Channel.receiverOutline else none), w)
  | .unknown => (.unknown, w)

def run (steps : List ChannelRequest) : List (Report (Option Nat)) × List String :=
  let (reports, w) := runSteps perform World.journal (fun _ w => w.channel.pending?)
    { World.empty with channel := .new .free } steps
  (reports, traceOf { w with journal := [] }.dropReceiver.journal)

end ChannelSession

end FrameHost
