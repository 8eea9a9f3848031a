import PtpipCore.Lib.Effects
import PtpipCore.Lib.ByteStream
import PtpipCore.Lib.FrontReaders
import PtpipCore.Lib.Writes
import PtpipCore.Lib.CrashActions
import PtpipCore.Lib.FaultyActions
import PtpipCore.Lib.Text
import PtpipCore.Lib.LossyText
import PtpipCore.Lib.FileActions
import PtpipCore.Lib.FileFrames
import PtpipCore.Lib.Milestones
import PtpipCore.Lib.FirstHeard
import PtpipCore.Lib.Refinement
import PtpipCore.Lib.CrashRefinement
import PtpipCore.Lib.Retries
import PtpipCore.Lib.Interleaving
import PtpipCore.Lib.Heaps
import PtpipCore.Types
import PtpipCore.Transport
import PtpipCore.Frames
import PtpipCore.FrameRoundTrip
import PtpipCore.SendRetry
import PtpipCore.ReadTimeouts
import PtpipCore.Commands
import PtpipCore.FrameStreams
import PtpipCore.Deliveries
import PtpipCore.ReceiveRuns
import PtpipCore.StreamProvenance
import PtpipCore.SharedStream
import PtpipCore.TruncatedFrames
import PtpipCore.HeaderCodec
import PtpipCore.PartialObject
import PtpipCore.CommandEncoding
import PtpipCore.RefusedChunks
import PtpipCore.Resume
import PtpipCore.Responses
import PtpipCore.IdLists
import PtpipCore.ResponseFormats
import PtpipCore.StringRanges
import PtpipCore.CameraClient
import PtpipCore.Conversations
import PtpipCore.ConversationProvenance
import PtpipCore.Sessions
import PtpipCore.SessionIds
import PtpipCore.IssuedCommands
import PtpipCore.StorageIds
import PtpipCore.Heartbeats
import PtpipCore.EventListener
import PtpipCore.EventFormat
import PtpipCore.ParserErrors
import PtpipCore.IdleListener
import PtpipCore.Discovery
import PtpipCore.DiscoveryRuns
import PtpipCore.DiscoveryResults
import PtpipCore.DiscoveryTiming
import PtpipCore.DiscoveryRounds
import PtpipCore.CameraNames
import PtpipCore.SessionHandles
import PtpipCore.CameraArrays
import PtpipCore.CameraLedgers
import PtpipCore.ResumePlan
import PtpipCore.ResumeEntry
import PtpipCore.Download
import PtpipCore.DownloadRun
import PtpipCore.DownloadTurns
import PtpipCore.ChunkAnswers
import PtpipCore.SidePaths
import PtpipCore.ResumeInvariant
import PtpipCore.DownloadOutcome
import PtpipCore.DownloadBounds
import PtpipCore.ConcurrentDownloads
import PtpipCore.PhotoDownload
import PtpipCore.PhotoAlbum
import PtpipCore.ClientRuns
import PtpipCore.DownloadProvenance
import PtpipCore.Completion
import PtpipCore.DiskErrors
import PtpipCore.MixedDownloads
import PtpipCore.InterruptedDownloads
import PtpipCore.FailedDownloads
import PtpipCore.LoopTermination
import PtpipCore.RequestLengths
import PtpipCore.ProgressReports
import PtpipCore.CompleteTargets
import PtpipCore.LargeObjects
import PtpipCore.RepeatedDownloads
