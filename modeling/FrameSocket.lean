import FrameSocket.Framer.Standard
import FrameSocket.Machine
import FrameSocket.Selector
import FrameSocket.Socket.Scripted
import FrameSocket.Proofs.Matching
import FrameSocket.Proofs.Delimited
import FrameSocket.Proofs.Rescans
import FrameSocket.Proofs.Views
import FrameSocket.Proofs.Recording
import FrameSocket.Proofs.Conservation
import FrameSocket.Proofs.Driving
import FrameSocket.Proofs.Pipe
import FrameSocket.Proofs.Lifecycle
import FrameSocket.Proofs.Sending
import FrameSocket.Proofs.Replaying
import FrameSocket.Proofs.Datagrams
import FrameSocket.Proofs.Refusal
import FrameSocket.Proofs.Registered
import FrameSocket.Proofs.Polling
import FrameSocket.Proofs.Selecting
import FrameSocket.Proofs.Aside
import FrameSocket.Proofs.Unwatched
import FrameSocket.Proofs.Channels
import FrameSocket.Proofs.Mailboxes
import FrameSocket.Proofs.Accepting
import FrameSocket.Proofs.Peers
import FrameSocket.Proofs.Serving
import FrameSocket.Proofs.Reporting
import FrameSocket.Proofs.Sides
import FrameSocket.Proofs.DryReads
import FrameSocket.Proofs.Stalls
import FrameSocket.Proofs.SendWindow
import FrameSocket.Proofs.SlowStreaks
import FrameSocket.Proofs.FalseAlarms
import FrameSocket.Proofs.Interruptions
import FrameSocket.Proofs.Contract
import FrameSocket.Proofs.Budgets
import FrameSocket.Proofs.Timing
import FrameSocket.Proofs.CallBounds
import FrameSocket.Proofs.Readiness
import FrameSocket.Proofs.Slots
