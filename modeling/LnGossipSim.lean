import LnGossipSim.Library.Outcome
import LnGossipSim.Library.BigEndian
import LnGossipSim.Library.Codec
import LnGossipSim.Library.Cut
import LnGossipSim.Library.Slice
import LnGossipSim.Library.Decimal
import LnGossipSim.Library.Words
import LnGossipSim.Library.FirstHit
import LnGossipSim.Library.Method
import LnGossipSim.Library.Results
import LnGossipSim.Library.Caller
import LnGossipSim.Library.Justified
import LnGossipSim.Library.Yields
import LnGossipSim.Library.Part
import LnGossipSim.Library.Equations
import LnGossipSim.Library.Insertion
import LnGossipSim.Library.Uses
import LnGossipSim.Library.Ratchet
import LnGossipSim.Library.Transition
import LnGossipSim.Bolt.Types
import LnGossipSim.Bolt.Wire
import LnGossipSim.Bolt.Framing
import LnGossipSim.Bolt.WireCut
import LnGossipSim.Bolt.Tlv
import LnGossipSim.Bolt.TlvGrammar
import LnGossipSim.Bolt.TlvErrors
import LnGossipSim.Bolt.TlvFields
import LnGossipSim.Bolt.TlvMap
import LnGossipSim.Bolt.Control
import LnGossipSim.Bolt.Channel
import LnGossipSim.Bolt.Gossip
import LnGossipSim.Bolt.Scid
import LnGossipSim.Bolt.RangeQuery
import LnGossipSim.Bolt.QueryOption
import LnGossipSim.Bolt.Message
import LnGossipSim.Bolt.Canonical
import LnGossipSim.Bolt.Layout
import LnGossipSim.Bolt.Extension
import LnGossipSim.Bolt.Truncation
import LnGossipSim.Bolt.ShortChannelIds
import LnGossipSim.Bolt.Signing
import LnGossipSim.Bolt.ChannelGraph
import LnGossipSim.Bolt.ReceivedGossip
import LnGossipSim.Noise.Primitives
import LnGossipSim.Noise.Cipher
import LnGossipSim.Noise.Integrity
import LnGossipSim.Noise.Handshake
import LnGossipSim.Noise.Agreement
import LnGossipSim.Noise.Lifecycle
import LnGossipSim.Noise.Split
import LnGossipSim.Noise.Schedule
import LnGossipSim.Noise.Rejection
import LnGossipSim.Simd.Conn
import LnGossipSim.Simd.ReadLoop
import LnGossipSim.Simd.Peers
import LnGossipSim.Simd.Registration
import LnGossipSim.Simd.Listing
import LnGossipSim.Simd.Sendable
import LnGossipSim.Simd.Replies
import LnGossipSim.Simd.Connect
import LnGossipSim.Simd.BlockingConnection
import LnGossipSim.Simd.Session
import LnGossipSim.Simd.HonestPeer
import LnGossipSim.Simd.Tampering
import LnGossipSim.Simd.RecvMessage
import LnGossipSim.Simd.ParseScid
import LnGossipSim.Simd.Rpc
import LnGossipSim.Simd.Funding
import LnGossipSim.Simd.FundingOutput
import LnGossipSim.Simd.Startup
import LnGossipSim.Simd.Command
import LnGossipSim.Simd.ReplyText
import LnGossipSim.Simd.CommandSafety
import LnGossipSim.Simd.CommandSteps
import LnGossipSim.Simd.Server
import LnGossipSim.Simd.Mining
import LnGossipSim.Simd.Announcing
import LnGossipSim.Simd.Forwarding
import LnGossipSim.Simd.Operator
import LnGossipSim.Simd.Cli
