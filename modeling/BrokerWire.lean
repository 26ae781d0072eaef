import BrokerWire.Bytes
import BrokerWire.Word
import BrokerWire.Text.Utf8
import BrokerWire.Text.Shown
import BrokerWire.Text.Quoted
import BrokerWire.Number.Binary64
import BrokerWire.Number.Shortest
import BrokerWire.Number.Form
import BrokerWire.Value.Basic
import BrokerWire.Value.Entries
import BrokerWire.Value.Mismatch
import BrokerWire.Value.Event
import BrokerWire.Value.Json
import BrokerWire.MessagePack.Marker
import BrokerWire.MessagePack.Fault
import BrokerWire.MessagePack.Head
import BrokerWire.MessagePack.Document
import BrokerWire.MessagePack.Writer
import BrokerWire.MessagePack.Target
import BrokerWire.MessagePack.Record
import BrokerWire.Frame.Header
import BrokerWire.Frame.Headers
import BrokerWire.Body.Layout
import BrokerWire.Body.Record
import BrokerWire.Body.Basic
import BrokerWire.Message.Failure
import BrokerWire.Message.Basic
import BrokerWire.Stream.Delivery
import BrokerWire.Stream.FrameReader
import BrokerWire.Stream.MessageReader
import BrokerWire.Subscription.Basic
import BrokerWire.Proofs.Outcome
import BrokerWire.Proofs.Text.Utf8
import BrokerWire.Proofs.Number.Equality
import BrokerWire.Proofs.Value.Entries
import BrokerWire.Proofs.Value.Collecting
import BrokerWire.Proofs.Value.Canonical
import BrokerWire.Proofs.Value.Weight
import BrokerWire.Proofs.Value.Equality
import BrokerWire.Proofs.Value.Origins
import BrokerWire.Proofs.Value.Integers
import BrokerWire.Proofs.MessagePack.Grammar
import BrokerWire.Proofs.MessagePack.Heads
import BrokerWire.Proofs.MessagePack.Documents
import BrokerWire.Proofs.MessagePack.RoundTrip
import BrokerWire.Proofs.MessagePack.FirstFault
import BrokerWire.Proofs.MessagePack.Decoded
import BrokerWire.Proofs.Json.Grammar
import BrokerWire.Proofs.Json.Reading
import BrokerWire.Proofs.Json.Display
import BrokerWire.Proofs.Frame.Parts
import BrokerWire.Proofs.Frame.Headers
import BrokerWire.Proofs.Frame.Opening
import BrokerWire.Proofs.Body.Layout
import BrokerWire.Proofs.Body.Reading
import BrokerWire.Proofs.Body.RoundTrip
import BrokerWire.Proofs.Body.Exactness
import BrokerWire.Proofs.Body.Versions
import BrokerWire.Proofs.Body.Splitting
import BrokerWire.Proofs.Message.RoundTrip
import BrokerWire.Proofs.Message.Stages
import BrokerWire.Proofs.Message.Coherence
import BrokerWire.Proofs.Message.Refusals
import BrokerWire.Proofs.Message.Transparency
import BrokerWire.Proofs.Message.Equality
import BrokerWire.Proofs.Access.Basic
import BrokerWire.Proofs.Access.Headers
import BrokerWire.Proofs.Access.Body
import BrokerWire.Proofs.Access.Message
import BrokerWire.Proofs.Access.Stream
import BrokerWire.Proofs.Access.Safety
import BrokerWire.Proofs.Stream.Filling
import BrokerWire.Proofs.Stream.Resumption
import BrokerWire.Proofs.Stream.Items
import BrokerWire.Proofs.Stream.Beginning
import BrokerWire.Proofs.Stream.Framing
import BrokerWire.Proofs.Stream.Fragmentation
import BrokerWire.Proofs.Stream.Requests
import BrokerWire.Proofs.Stream.Isolation
import BrokerWire.Proofs.Stream.Admission
import BrokerWire.Proofs.Stream.Taking
import BrokerWire.Proofs.Stream.Padding
import BrokerWire.Proofs.Stream.Unknown
import BrokerWire.Proofs.Stream.Ways
import BrokerWire.Proofs.Subscription.Rest
import BrokerWire.Proofs.Subscription.Session
import BrokerWire.Proofs.Subscription.Faithful
import BrokerWire.Proofs.Subscription.Position
import BrokerWire.Proofs.Subscription.ReadAhead
import BrokerWire.Proofs.Subscription.Ending
import BrokerWire.Proofs.Subscription.Exchange
