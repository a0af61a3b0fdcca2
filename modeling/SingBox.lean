import SingBox.Rule.MatchSource
import SingBox.Group.Membership
import SingBox.Route.Agreement
import SingBox.Route.KeepsData
import SingBox.Route.EndsOnce
import SingBox.FakeIP.Consistency
import SingBox.FakeIP.CrashSafety
import SingBox.Dns.RuleSetUpdate
import SingBox.Dns.Race
import SingBox.Dns.Fallthrough
import SingBox.Outbound.Consistency
import SingBox.Provider.Update
import SingBox.Capture.NewestRequest
import SingBox.Capture.Rest
import SingBox.Capture.SingleOwner
import SingBox.Ebpf.AllOrNothing
import SingBox.Ebpf.PolicyDifference
import SingBox.Srs.IpSetStream
import SingBox.Srs.MmapSafety
import SingBox.Dns.Fallback
import SingBox.Group.SelectOptimal
import SingBox.Group.Health
import SingBox.Provider.Restart
import SingBox.Transport.XmuxLimits
import SingBox.AdGuard.Precedence
import SingBox.FakeIP.Pool
import SingBox.FakeIP.Transaction
import SingBox.Dns.ClientSubnet
import SingBox.Transport.PacketUp
import SingBox.Ebpf.MapPressure
import SingBox.Common.Version
import SingBox.Service.UsageFile
