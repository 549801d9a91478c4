import VertexOS.FrameAllocator
import VertexOS.GenerationReaping
import VertexOS.NativeBoot
import VertexOS.ManagerAgreement
import VertexOS.ObjectRuns
import VertexOS.DeadReplies
import VertexOS.ActivationOrder
import VertexOS.InitActivation
import VertexOS.BlockDriver
import VertexOS.ParserSafety
import VertexOS.DmaExclusivity
import VertexOS.MessageSlots
import VertexOS.FileHandles
import VertexOS.StateCoverage
import VertexOS.HostVertexFs
import VertexOS.Deadlines
import VertexOS.DirectoryListings
import VertexOS.StagingRefusals
import VertexOS.UserRanges
import VertexOS.StateRequests
import VertexOS.BlockCache
import VertexOS.HostedPointers
import VertexOS.ChildProcesses
import VertexOS.ServiceClosure
import VertexOS.CommandLines
import VertexOS.ManifestReferences
import VertexOS.CapabilityLineage
import VertexOS.VertexFsCommitRuns
import VertexOS.DirtyPages
import VertexOS.FileBackings
