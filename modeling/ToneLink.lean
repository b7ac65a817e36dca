import ToneLink.Link
import ToneLink.Main
import ToneLink.Proofs.SinkContents
import ToneLink.Proofs.Padding
import ToneLink.Proofs.WireCodec
import ToneLink.Proofs.LossLaw
import ToneLink.Proofs.RecordedAudio
import ToneLink.Proofs.CheckedPlans
import ToneLink.Proofs.LinkFidelity
import ToneLink.Proofs.QueueCalls
import ToneLink.Proofs.StationBooks
import ToneLink.Proofs.ReportWindows
import ToneLink.Proofs.PrefilledStart
import ToneLink.Proofs.HeardAudio
import ToneLink.Proofs.FrameAlignment
import ToneLink.Proofs.LossTotals
import ToneLink.Proofs.SinkBounds
import ToneLink.Proofs.PacketSizes
import ToneLink.Proofs.FloatArithmetic
import ToneLink.Proofs.PlanChecks
import ToneLink.Proofs.ReportTiming
import ToneLink.Proofs.PacketInterval
import ToneLink.Proofs.HeaderCounts
import ToneLink.Proofs.Pacing
import ToneLink.Proofs.ToneTable
import ToneLink.Proofs.SharedPlayback
