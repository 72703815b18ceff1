import LinkSocks.Relay.RoundRobin
import LinkSocks.Proxy.HTTPConnect
import LinkSocks.Go.Word
import LinkSocks.Go.Slice
import LinkSocks.Go.Hex
import LinkSocks.Wire.Message
import LinkSocks.Wire.Pack
import LinkSocks.Wire.Parse
import LinkSocks.Wire.Fields
import LinkSocks.Wire.RoundTrip
import LinkSocks.Wire.Safety
import LinkSocks.Wire.Preservation
import LinkSocks.Go.Machine
import LinkSocks.Relay.Auth
import LinkSocks.Relay.Dispatch
import LinkSocks.Relay.Pump
import LinkSocks.Relay.Pairing
import LinkSocks.Relay.TokenRules
import LinkSocks.Client.Entry
import LinkSocks.Client.Sealing
import LinkSocks.Secure.Endpoint
import LinkSocks.Secure.Frames
import LinkSocks.Secure.Integrity
import LinkSocks.Secure.Confinement
import LinkSocks.Secure.NonceChain
import LinkSocks.Secure.Receiver
import LinkSocks.Channel.Logical
import LinkSocks.Channel.Transfer
import LinkSocks.Channel.Ordered
import LinkSocks.Net.InOrder
import LinkSocks.Channel.Retry
import LinkSocks.Channel.Upgrade
import LinkSocks.Channel.Concurrent
import LinkSocks.Channel.Agreement
import LinkSocks.Proxy.FastOpen
import LinkSocks.Secure.PlainView
import LinkSocks.Client.Links
import LinkSocks.Go.Refs
import LinkSocks.Relay.Buffers
import LinkSocks.Relay.Forwarding
import LinkSocks.Go.Sections
import LinkSocks.Relay.Queues
import LinkSocks.Relay.Handover
import LinkSocks.Relay.Resume
import LinkSocks.Relay.Peers
import LinkSocks.Relay.Teardown
import LinkSocks.Go.Holders
import LinkSocks.Relay.Expiry
import LinkSocks.Relay.ReturnPath
import LinkSocks.Relay.ReturnOrder
import LinkSocks.Relay.Isolation
import LinkSocks.Channel.EarlyData
import LinkSocks.Dial.Access
import LinkSocks.Dial.Datagrams
import LinkSocks.Dial.Gateway
import LinkSocks.Dial.Override
import LinkSocks.Dial.Config
import LinkSocks.Tokens.Channels
import LinkSocks.Tokens.Management
import LinkSocks.Tokens.Paths
import LinkSocks.Tokens.Revocation
import LinkSocks.Client.Pool
import LinkSocks.Client.Status
import LinkSocks.Direct.Auth
import LinkSocks.Direct.DataPlane
import LinkSocks.Direct.Only
import LinkSocks.Direct.PairSession
import LinkSocks.Direct.Select
import LinkSocks.Direct.Rendezvous
import LinkSocks.Go.Leases
import LinkSocks.Tokens.Ports
import LinkSocks.Zone.Channel
import LinkSocks.Go.Method
import LinkSocks.Proxy.Associate
import LinkSocks.Proxy.Base64
import LinkSocks.Proxy.Gate
import LinkSocks.Proxy.Refusal
import LinkSocks.Proxy.HopByHop
import LinkSocks.Proxy.HostPort
import LinkSocks.Proxy.Web
import LinkSocks.Zone.Connection
import LinkSocks.Zone.Datagrams
import LinkSocks.Zone.Members
import LinkSocks.Zone.Reflection
import LinkSocks.Zone.Replay
import LinkSocks.Zone.SocksReply
import LinkSocks.Zone.Table
