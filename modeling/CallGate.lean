import CallGate.Json.Forms
import CallGate.Machine.Swap
import CallGate.Main
import CallGate.Region.Effect
import CallGate.Region.PageMemory
import CallGate.Transport.Loopback
import CallGate.Transport.Wire
import CallGate.Proofs.Dispatcher.History
import CallGate.Proofs.Dispatcher.Reception
import CallGate.Proofs.Dispatcher.Gate
import CallGate.Proofs.Dispatcher.Output
import CallGate.Proofs.Crypto.Cipher
import CallGate.Proofs.Dispatcher.Conversation
import CallGate.Proofs.Transport.Stream
import CallGate.Proofs.Transport.Turns
import CallGate.Proofs.Dispatcher.LifeCycle
import CallGate.Proofs.Dispatcher.Cost
import CallGate.Proofs.Dispatcher.Isolation
import CallGate.Proofs.Transport.Course
import CallGate.Proofs.Transport.Grammar
import CallGate.Proofs.Transport.Closing
import CallGate.Proofs.Dispatcher.Agreement
import CallGate.Proofs.Sealing
import CallGate.Proofs.Invocation
import CallGate.Proofs.Region.Descriptor
import CallGate.Proofs.Packet.Exactness
import CallGate.Proofs.Region.Loading
import CallGate.Proofs.Transport.Range
import CallGate.Proofs.Dispatcher.Verdict
import CallGate.Proofs.Noninterference
import CallGate.Proofs.Machine.Entry
import CallGate.Proofs.Handshake
import CallGate.Proofs.Register.Layout
import CallGate.Proofs.Transport.Inbox
import CallGate.Proofs.Dispatcher.Idling
import CallGate.Proofs.Settings
import CallGate.Proofs.Startup
import CallGate.Proofs.Address.Canonical
import CallGate.Proofs.Json.Forms
import CallGate.Proofs.Region.Footprint
import CallGate.Proofs.Transport.Waiting
import CallGate.Proofs.Region.Pages
