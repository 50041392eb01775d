import FrameHost.Machine.Rest
import FrameHost.Proofs.AbortedReload
import FrameHost.Proofs.ChannelLoss
import FrameHost.Proofs.Debounce
import FrameHost.Proofs.DroppedCalls
import FrameHost.Proofs.ExitRequests
import FrameHost.Proofs.FrameFailures
import FrameHost.Proofs.GateScopes
import FrameHost.Proofs.Guards
import FrameHost.Proofs.NestedDrains
import FrameHost.Proofs.Panics
import FrameHost.Proofs.PlatformFrame
import FrameHost.Proofs.PushOrder
import FrameHost.Proofs.RedrawLoop
import FrameHost.Proofs.RequestBursts
import FrameHost.Proofs.SkippedFrames
import FrameHost.Proofs.SpilledCalls
import FrameHost.Proofs.Teardown
import FrameHost.Proofs.TickOutcomes
import FrameHost.Proofs.TimerLengths
import FrameHost.Proofs.TimerSlots
import FrameHost.Proofs.TimerCalls
import FrameHost.Proofs.UnchangedSettings
import FrameHost.Proofs.WindowCommands
import FrameHost.Session.Affinity
import FrameHost.Session.Basic
import FrameHost.Session.Channel
import FrameHost.Session.Controls
import FrameHost.Session.Debouncer
import FrameHost.Session.Gate
import FrameHost.Session.Host
import FrameHost.Session.Queue
import FrameHost.Session.Timer
import FrameHost.Session.Value
