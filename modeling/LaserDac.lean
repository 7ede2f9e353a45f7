import LaserDac.Passes
import LaserDac.Delivery
import LaserDac.Darkness
import LaserDac.Shutter
import LaserDac.StartupBlank
import LaserDac.DelayQueue
import LaserDac.LaserCubeDelivery
import LaserDac.AudioSinks
import LaserDac.Release
import LaserDac.Replacement
import LaserDac.EtherDreamModel
import LaserDac.EtherDreamSync
import LaserDac.EtherDreamClient
import LaserDac.EtherDreamEstimate
import LaserDac.EtherDreamProgress
import LaserDac.FrameSwap
import LaserDac.IdnFormats
import LaserDac.IdnIsolation
import LaserDac.IdnServer
import LaserDac.IdnTiming
import LaserDac.IdnRoundTrip
import LaserDac.IdnStop
import LaserDac.ChunkHistory
import LaserDac.SoftwareDecay
import LaserDac.UdpPacing
import LaserDac.ResampleChunks
import LaserDac.AvbOutput
import LaserDac.LaserCubeAcks
import LaserDac.LaserCubeEstimate
import LaserDac.EtherDreamLedger
import LaserDac.EtherDreamFragments
import LaserDac.EtherDreamCodec
import LaserDac.HeliosFrame
import LaserDac.Rates
import LaserDac.IdnAnnouncements
import LaserDac.AvbDevices
import LaserDac.AvbHost
import LaserDac.FrameAssembly
import LaserDac.Discovery
