import GSMaster.Database.Damage
import GSMaster.Downloads.Blocked
import GSMaster.Downloads.ListLines
import GSMaster.Enctype.KeystreamDepth
import GSMaster.Enctype.Permutations
import GSMaster.Lists.Published
import GSMaster.Loop.Service
import GSMaster.Lists.Reimport
import GSMaster.Lists.TcpBounds
import GSMaster.Loop.Descriptors
import GSMaster.Loop.Ledger
import GSMaster.Loop.Progress
import GSMaster.Loop.Queueing
import GSMaster.Loop.Speech
import GSMaster.Packets.AckCopy
import GSMaster.Packets.QuakeWorldHeaders
import GSMaster.Packets.Shutdown
import GSMaster.Registry.Arrivals
import GSMaster.Registry.Challenges
import GSMaster.Registry.LineSplit
import GSMaster.Registry.NetQuakeReplies
import GSMaster.Registry.PingTargets
import GSMaster.Registry.Restriction
import GSMaster.Registry.Silence
import GSMaster.Registry.Spacing
import GSMaster.Session.HonestAnswers
import GSMaster.Session.ListNames
import GSMaster.Session.Motd
import GSMaster.Session.Retries
import GSMaster.Session.TcpBuffers
import GSMaster.Session.Unsupported
import GSMaster.Startup.Grammar
import GSMaster.Startup.HeartbeatInterval
import GSMaster.Startup.Ports
import GSMaster.Text.InfoLookup
