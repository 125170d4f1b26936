import GssContext.Bytes
import GssContext.Bytes.Hex
import GssContext.Cbor.Head
import GssContext.Cbor.Read
import GssContext.Cbor.Record
import GssContext.Cipher.ChaCha20
import GssContext.Cipher.Poly1305
import GssContext.Cipher.Sealed
import GssContext.Client.Address
import GssContext.Client.Config
import GssContext.Client.Dialing
import GssContext.Client.KeyFile
import GssContext.Client.Session
import GssContext.Command.Arguments
import GssContext.Command.LogFilter
import GssContext.Command.LogRule
import GssContext.Command.Run
import GssContext.Duration
import GssContext.Environment
import GssContext.Flags
import GssContext.Frame
import GssContext.Frame.Pipe
import GssContext.Handshake
import GssContext.Hash.Hmac
import GssContext.Hash.Sha256
import GssContext.Host.Network
import GssContext.Host.Surroundings
import GssContext.IoError
import GssContext.Journal
import GssContext.KeySchedule
import GssContext.Main
import GssContext.Mechanism
import GssContext.MessageHeader
import GssContext.Negotiation
import GssContext.Oid
import GssContext.Oid.Der
import GssContext.Oid.Dotted
import GssContext.Protection
import GssContext.Psk.Acceptor
import GssContext.Psk.Config
import GssContext.Psk.Context
import GssContext.Psk.Initiator
import GssContext.Psk.Refusal
import GssContext.Psk.Session
import GssContext.Rehearsal.Bench
import GssContext.Rehearsal.Engagement
import GssContext.Rehearsal.Exercise
import GssContext.Rehearsal.Files
import GssContext.Rehearsal.Link
import GssContext.Rehearsal.Loopback
import GssContext.Rehearsal.Machine
import GssContext.Rehearsal.Memory
import GssContext.Rehearsal.Peer
import GssContext.Rehearsal.Program
import GssContext.Rehearsal.Puppet
import GssContext.Rehearsal.Relay
import GssContext.Rehearsal.Scripted
import GssContext.SecurityContext
import GssContext.ServiceName
import GssContext.Status
import GssContext.Text.Alphanumeric
import GssContext.Text.Blank
import GssContext.Text.ControlSequence
import GssContext.Text.Decimal
import GssContext.Text.Fields
import GssContext.Text.Likeness
import GssContext.Text.Pattern
import GssContext.Text.Quoted
import GssContext.Text.Unprintable
import GssContext.Text.Utf8
import GssContext.Token
import GssContext.Proofs.Action
import GssContext.Proofs.Psk.Call
import GssContext.Proofs.Psk.Exchange
import GssContext.Proofs.Psk.Delivery
import GssContext.Proofs.Cbor.Takes
import GssContext.Proofs.Handshake
import GssContext.Proofs.Psk.Grants
import GssContext.Proofs.Psk.Transcript
import GssContext.Proofs.ServiceName
import GssContext.Proofs.Psk.Turn
import GssContext.Proofs.Psk.Completion
import GssContext.Proofs.Psk.Agreement
import GssContext.Proofs.Psk.Honest
import GssContext.Proofs.Negotiation
import GssContext.Proofs.Rehearsal.Link
import GssContext.Proofs.Rehearsal.Outcome
import GssContext.Proofs.Psk.Acceptance
import GssContext.Proofs.Psk.Rejection
import GssContext.Proofs.Client.Course
import GssContext.Proofs.Psk.Numbering
import GssContext.Proofs.Psk.Forgery
import GssContext.Proofs.Client.Achieved
import GssContext.Proofs.Client.Authentic
import GssContext.Proofs.Client.Calling
import GssContext.Proofs.Rehearsal.Stream
import GssContext.Proofs.Rehearsal.Serving
import GssContext.Proofs.Rehearsal.Delivered
import GssContext.Proofs.Frame.Reading
import GssContext.Proofs.Frame.Writing
import GssContext.Proofs.Frame.Pipe
import GssContext.Proofs.Frame.Wire
import GssContext.Proofs.Psk.Expiry
import GssContext.Proofs.Psk.Lifecycle
import GssContext.Proofs.Rehearsal.Steps
import GssContext.Proofs.Psk.Granted
import GssContext.Proofs.Rehearsal.Served
import GssContext.Proofs.Coupling
import GssContext.Proofs.Client.Coupled
import GssContext.Proofs.Rehearsal.Refined
import GssContext.Proofs.Oid.Base128
import GssContext.Proofs.Oid.Words
import GssContext.Proofs.Oid.Der
import GssContext.Proofs.Engine
import GssContext.Proofs.Psk.Guard
import GssContext.Proofs.RandomStream
import GssContext.Proofs.Psk.Nonces
import GssContext.Proofs.Handshake.Confusion
import GssContext.Proofs.Negotiation.Bound
import GssContext.Proofs.ServiceName.Matching
import GssContext.Proofs.Text.Decimal
import GssContext.Proofs.Oid.Dotted
