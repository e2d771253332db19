import OtunKernel.Ccm.Saves
import OtunKernel.Dialer.Verdict
import OtunKernel.Dns.ClientSubnet
import OtunKernel.Dns.ExchangeRules
import OtunKernel.Dns.Framing
import OtunKernel.Dns.Mdns
import OtunKernel.Dns.RejectionCache
import OtunKernel.Dns.Reload
import OtunKernel.Dns.SameQuestion
import OtunKernel.Dns.TransportManager
import OtunKernel.FakeIP.Memory
import OtunKernel.FakeIP.Metadata
import OtunKernel.Geosite.RoundTrip
import OtunKernel.Group.BurstOnce
import OtunKernel.Group.FailoverRace
import OtunKernel.Group.Strikes
import OtunKernel.Group.Tolerance
import OtunKernel.GrpcLite.Conn
import OtunKernel.OomKiller.Timer
import OtunKernel.Punch.RelayAck
import OtunKernel.Punch.Sockets
import OtunKernel.Realm.Expiry
import OtunKernel.Realm.Relays
import OtunKernel.Resolved.SplitDns
import OtunKernel.Resolved.Usable
import OtunKernel.Route.Connection
import OtunKernel.Route.Router
import OtunKernel.Rule.AddressFilter
import OtunKernel.Rule.InPlace
import OtunKernel.Rule.Monotone
import OtunKernel.Rule.RemoteRuleSet
import OtunKernel.Sip003.Args
import OtunKernel.Sniff.Segmentation
import OtunKernel.Srs.Downgrade
import OtunKernel.Srs.RoundTrip
import OtunKernel.Srs.Safety
import OtunKernel.Ssmapi.User
import OtunKernel.TlsFragment.Safety
import OtunKernel.TlsSpoof.Checksum
import OtunKernel.TlsSpoof.Timestamp
import OtunKernel.Transport.OrderedPool
import OtunKernel.Transport.QueryId
import OtunKernel.Transport.SharedPool
import OtunKernel.Transport.UdpAnswers
import OtunKernel.Trojan.Frames
import OtunKernel.Trojan.Service
import OtunKernel.Tun.ConnTracker
import OtunKernel.V2rayHttp.Conn
import OtunKernel.Websocket.Client
import OtunKernel.Websocket.Writer
