import AudioLink.Wire.Role
import AudioLink.Wire.Frame
import AudioLink.Wire.Device
import AudioLink.Sample.Tone
import AudioLink.Sample.BlockQueue
import AudioLink.Link.Cadence
import AudioLink.Link.HeaderSource
import AudioLink.Link.Notice
import AudioLink.Link.Settings
import AudioLink.Link.Tracker
import AudioLink.Link.Call
import AudioLink.Link.ManualTimer
import AudioLink.Link.Pipeline
import AudioLink.Link.ScriptedHost
import AudioLink.Network.Queue
import AudioLink.Network.ThreadTimer
import AudioLink.Network.WorkLoop
import AudioLink.Network.Basic
import AudioLink.Network.FiringCounter
import AudioLink.Network.Handle
import AudioLink.Network.Loopback
import AudioLink.Toml.Lexical
import AudioLink.Toml.Text
import AudioLink.Toml.Value
import AudioLink.Toml.Document
import AudioLink.Config.Basic
import AudioLink.Config.File
import AudioLink.Proofs.Wire.Codec
import AudioLink.Proofs.Link.Effects
import AudioLink.Proofs.Link.Run
import AudioLink.Proofs.Link.Sessions
import AudioLink.Proofs.Link.Liveness
import AudioLink.Proofs.Link.Trace
import AudioLink.Proofs.Link.Ledger
import AudioLink.Proofs.Network.Delivery
import AudioLink.Proofs.Network.Run
import AudioLink.Proofs.Network.Medium
import AudioLink.Proofs.Network.Reception
import AudioLink.Proofs.Link.Announcements
import AudioLink.Proofs.Link.Accounts
import AudioLink.Proofs.Link.Independence
import AudioLink.Proofs.Network.Work
import AudioLink.Proofs.Network.Draining
import AudioLink.Proofs.Wire.Exactness
import AudioLink.Proofs.Link.Coherence
import AudioLink.Proofs.Link.Outbound
import AudioLink.Proofs.Network.Callers
import AudioLink.Proofs.Network.Dispatch
import AudioLink.Proofs.Link.Generations
import AudioLink.Proofs.Link.Strays
import AudioLink.Proofs.Link.Pacing
import AudioLink.Proofs.Link.Lateness
import AudioLink.Proofs.Link.Arrival
import AudioLink.Proofs.Link.Mirrors
import AudioLink.Proofs.Network.Timers
import AudioLink.Proofs.Network.TimerCalls
import AudioLink.Proofs.Network.Tokens
import AudioLink.Proofs.Network.Chains
import AudioLink.Proofs.Network.Ports
import AudioLink.Proofs.Network.Hooks
import AudioLink.Proofs.Network.Bench
import AudioLink.Proofs.Network.Confluence
import AudioLink.Proofs.Wire.Addresses
import AudioLink.Proofs.Config.Times
import AudioLink.Proofs.Link.Gaps
import AudioLink.Proofs.Network.Fanout
import AudioLink.Proofs.Network.Traffic
import AudioLink.Proofs.Network.Counters
import AudioLink.Proofs.Sample.Blocks
import AudioLink.Proofs.Sample.Losses
import AudioLink.Proofs.Link.Tones
