import GuestNat.Bytes
import GuestNat.Config
import GuestNat.Counters
import GuestNat.Engine.Basic
import GuestNat.Engine.Input
import GuestNat.Engine.Lifecycle
import GuestNat.Engine.Run
import GuestNat.Engine.Sweep
import GuestNat.Engine.Tcp
import GuestNat.Fault
import GuestNat.Flow.Table
import GuestNat.Link.Basic
import GuestNat.Link.Description
import GuestNat.Link.State
import GuestNat.Link.Table
import GuestNat.Net.Address
import GuestNat.Net.AddressText
import GuestNat.Port.HostTable
import GuestNat.Port.Pool
import GuestNat.Proofs.Engine.Aging
import GuestNat.Proofs.Engine.Carried
import GuestNat.Proofs.Engine.Coherence
import GuestNat.Proofs.Engine.Completion
import GuestNat.Proofs.Engine.Datagrams
import GuestNat.Proofs.Engine.Dialing
import GuestNat.Proofs.Engine.Emissions
import GuestNat.Proofs.Engine.Events
import GuestNat.Proofs.Engine.Fate
import GuestNat.Proofs.Engine.FirstSegment
import GuestNat.Proofs.Engine.Flows
import GuestNat.Proofs.Engine.Fragments
import GuestNat.Proofs.Engine.Groups
import GuestNat.Proofs.Engine.Isolation
import GuestNat.Proofs.Engine.Ledger
import GuestNat.Proofs.Engine.Lifecycle
import GuestNat.Proofs.Engine.Links
import GuestNat.Proofs.Engine.LinksOnly
import GuestNat.Proofs.Engine.Misses
import GuestNat.Proofs.Engine.Openings
import GuestNat.Proofs.Engine.Retransmission
import GuestNat.Proofs.Engine.Sent
import GuestNat.Proofs.Engine.Sockets
import GuestNat.Proofs.Engine.SweepOrder
import GuestNat.Proofs.Engine.SweepPolicy
import GuestNat.Proofs.Engine.Sweeping
import GuestNat.Proofs.Engine.Translation
import GuestNat.Proofs.Engine.Transparency
import GuestNat.Proofs.Engine.Waiting
import GuestNat.Proofs.Flow.Eviction
import GuestNat.Proofs.Flow.Hearing
import GuestNat.Proofs.Flow.History
import GuestNat.Proofs.Flow.Isolation
import GuestNat.Proofs.Link.Allocation
import GuestNat.Proofs.Link.Close
import GuestNat.Proofs.Link.Consistency
import GuestNat.Proofs.Link.DataFin
import GuestNat.Proofs.Link.Handshake
import GuestNat.Proofs.Link.Observation
import GuestNat.Proofs.Link.Pairing
import GuestNat.Proofs.Link.Requests
import GuestNat.Proofs.Link.Reset
import GuestNat.Proofs.Port.Hexadecimal
import GuestNat.Proofs.Port.HostTable
import GuestNat.Proofs.Port.Pool
import GuestNat.Proofs.Port.Reuse
import GuestNat.Proofs.Reassembly.Accounting
import GuestNat.Proofs.Reassembly.Delivery
import GuestNat.Proofs.Reassembly.Fragments
import GuestNat.Proofs.Reassembly.History
import GuestNat.Proofs.Reassembly.Invariant
import GuestNat.Proofs.Reassembly.Provenance
import GuestNat.Proofs.Relay.Faithful
import GuestNat.Proofs.Relay.Pipe
import GuestNat.Proofs.Routing.Atomicity
import GuestNat.Proofs.Routing.Rollback
import GuestNat.Proofs.Socks.Conversation
import GuestNat.Proofs.Socks.Grammar
import GuestNat.Proofs.Socks.Server
import GuestNat.Proofs.Socks.Speech
import GuestNat.Proofs.Socks.Transcript
import GuestNat.Proofs.Text.Fields
import GuestNat.Proofs.Wire.Corruption
import GuestNat.Proofs.Wire.Datagrams
import GuestNat.Proofs.Wire.RoundTrip
import GuestNat.Proofs.Wire.ShortHeader
import GuestNat.Proofs.Wire.Survival
import GuestNat.Reassembly
import GuestNat.Rehearsal.Agenda
import GuestNat.Rehearsal.Host
import GuestNat.Rehearsal.LinkDesk
import GuestNat.Rehearsal.Provider
import GuestNat.Rehearsal.Relay
import GuestNat.Rehearsal.Reply
import GuestNat.Rehearsal.Rounds
import GuestNat.Rehearsal.Routing
import GuestNat.Rehearsal.Script
import GuestNat.Rehearsal.Turn
import GuestNat.Relay
import GuestNat.Routing
import GuestNat.Socket.Datagram
import GuestNat.Socket.Dial
import GuestNat.Socket.Stream
import GuestNat.Socks.Dialogue
import GuestNat.Socks.Message
import GuestNat.Socks.Negotiation
import GuestNat.Stream
import GuestNat.Table
import GuestNat.Text.Blank
import GuestNat.Text.Printable
import GuestNat.Text.Quoted
import GuestNat.Wire.Checksum
import GuestNat.Wire.Frame
import GuestNat.Wire.Icmp
import GuestNat.Wire.Tcp
import GuestNat.Wire.Udp
