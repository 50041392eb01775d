import FrameHost.Host.Build
import FrameHost.Host.Request
import FrameHost.Session.Work

/-!
A session with a host: requests from named threads, frames, window events, and at the end the teardown of
the host, its handles and its channel.
-/
namespace FrameHost

inductive LoopEvent where
  | window (event : WindowEvent)
  | act (body : Script)
  | unknown

inductive HostStep where
  | capabilities
  | inContext
  | renderer
  | render (count : Nat)
  | cloneHandle (slot : Nat)
  /-- Runs the event loop until it ends; the host does not outlive it. -/
  | run (events : List LoopEvent) (code : Int) (createError : Option LoopError)
  | request (request : Request)
  | unknown

structure HostRequest where
  thread : String
  step : HostStep

structure HostView where
  resize : Option Resolution
  settings : Settings
  inContext : Bool
  available : Bool
  fullscreen : Bool
  exitRequested : Option Bool

structure HostState where
  host : Option HostView
  /-- The calls that wait, for each handle slot that is full. -/
  handles : List (Option Nat)
  main : Option Nat
  resolution : Resolution

namespace HostSession

def view (w : World) (thread : Nat) : HostState where
  host := w.host.map fun h =>
    let c := h.controls.capabilities w.desktop
    ⟨h.adapter.resize.target, h.adapter.settings, (w.graphics.getD .new).inContext thread, c.available,
      c.fullscreen, h.controls.exitRequested?⟩
  handles := (List.range w.handles.length).map fun slot => (w.handle? slot).map (·.queue.length)
  main := w.channel.pending?
  resolution := w.renderer.resolution

def askedExit (old : Nat) (w : World) : Bool :=
  (w.journal.take (w.journal.length - old)).contains .loopExitAsked

def render (w : World) (thread : Nat) : Nat → Except (Fault × World) (List Bool × World)
  | 0 => .ok ([], w)
  | n + 1 =>
      let m := Request.render.carryOut w thread
      match m.fault with
      | some fault => .error (fault, m.world)
      | none => do
          let (rest, w) ← render m.world thread n
          return (decide (m.answer = .flag true) :: rest, w)

def deliver (w : World) (thread : Nat) : List LoopEvent → Option Fault × World
  | [] => (none, w)
  | event :: rest =>
      let m := match event with
        | .window e => (Request.event e).carryOut w thread
        | .act body => (Request.act body).carryOut w thread
        | .unknown => .proceed w []
      match m.fault with
      | some fault => (some fault, m.world)
      | none => if askedExit w.journal.length m.world then (none, m.world) else deliver m.world thread rest

def runLoop (w : World) (thread : Nat) (events : List LoopEvent) (code : Int)
    (createError : Option LoopError) : Reply × World :=
  let w := w.log .loopStarting
  match createError with
  | some e => (.failed (.creation e), w.dropHost)
  | none => match deliver w thread events with
      | (some fault, w) => (.fault fault, w.dropHost)
      | (none, w) =>
          if code = 0 then (.text "ok", (w.log .loopExited).dropHost)
          else (.failed (.execution (.exitFailure code)), w.dropHost)

def replyTo (r : Request) (before : World) (m : Machine) : Reply :=
  match m.fault, r with
  | some fault, _ => .fault fault
  | none, .runMain => m.reply
  | none, .newHandle => .count before.handles.length
  | none, .dropHandle slot => .flag (before.handles[slot]?.getD false)
  | none, .dropReceiver => .flag (before.channel.receiver == .free)
  | none, .dropHost => .flag before.host.isSome
  | none, .event _ => .exit (askedExit before.journal.length m.world)
  | none, _ => .nothing

def refusal? (r : Request) (w : World) : Option Reply :=
  let gone : Option Reply := if w.host.isNone then some (.missing .host) else none
  match r with
  | .act _ | .dropHandle _ | .dropReceiver | .dropHost | .userFullscreen .. | .scale _ | .failNextWindow _
  | .title _ => none
  | .runMain => if w.channel.receiver = .free then none else some (.missing .receiver)
  | .attach => match w.host with
      | some ⟨_, .panel _, _⟩ => some .unknown
      | _ => gone
  | .event _ => match w.host with
      | some ⟨_, _, none⟩ => some .unknown
      | _ => gone
  | _ => gone

def perform (r : HostRequest) (w : World) : Reply × World :=
  let (threads, thread) := w.threads.named r.thread
  let w := { w with threads }
  match r.step with
  | .request request => match refusal? request w with
      | some reply => (reply, w)
      | none =>
          let m := request.carryOut w thread
          (replyTo request w m, m.world)
  | .cloneHandle slot =>
      if w.handles[slot]?.getD false then (.count w.handles.length, { w with handles := w.handles ++ [true] })
      else (.missing .handle, w)
  | .run events code createError => match w.host.bind (·.platform) with
      | none => (.missing .platform, w)
      | some _ => runLoop w thread events code createError
  | step => match w.host with
      | none => (.missing .host, w)
      | some h => match step with
          | .capabilities => (.capabilities (h.controls.capabilities w.desktop), w)
          | .inContext => (.flag ((w.graphics.getD .new).inContext thread), w)
          | .renderer => (.resolution w.renderer.resolution, w)
          | .render count => match render w thread count with
              | .ok (results, w) => (.flags results, w)
              | .error (fault, w) => (.fault fault, w)
          | _ => (.unknown, w)

def teardown (w : World) : World :=
  let w := w.dropHost
  let w := (List.range w.handles.length).foldl World.dropHandle w
  w.dropReceiver

structure Result where
  start : List String
  steps : List (Report HostState)
  finish : List String

def run (prelude : Script) (kind : HostKind) (panel : Panel) (builder : List OptionChange)
    (steps : List HostRequest) : Except Fault Result := do
  let m := (Machine.proceed .empty [.script Threads.main prelude]).run
  if let some fault := m.fault then throw fault
  let b ← builder.foldlM OptionChange.apply .standard
  let w ← m.world.build kind panel b
  let (reports, last) := runSteps perform World.journal
    (fun r w => view w (w.threads.named r.thread).2) w steps
  return ⟨traceOf w.journal, reports, traceOf (teardown { last with journal := [] }).journal⟩

end HostSession

end FrameHost
