import FrameHost.Machine.Run
import FrameHost.Session.Report

/-!
The replies of a machine that came to rest.
-/
namespace FrameHost

def Machine.reply (m : Machine) : Reply :=
  match m.fault, m.answer with
  | some fault, _ => .fault fault
  | none, .nothing => .nothing
  | none, .flag b => .flag b
  | none, .count n => .count n

def World.act (w : World) (body : Script) : Reply × World :=
  let m := (Machine.proceed w [.script Threads.main body]).run
  (m.fault.elim .nothing .fault, m.world)

end FrameHost
