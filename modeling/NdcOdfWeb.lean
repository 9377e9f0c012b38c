import NdcOdfWeb.Protocol.TokenizeLoop
import NdcOdfWeb.Protocol.TokenLookup
import NdcOdfWeb.Protocol.JsonLookup
import NdcOdfWeb.Tiles.TileCombinedCodec
import NdcOdfWeb.Queue.Conservation
import NdcOdfWeb.Queue.Duplicates
import NdcOdfWeb.Queue.CancelTiles
import NdcOdfWeb.Queue.InvalidationCoverage
import NdcOdfWeb.Queue.LastWriterWins
import NdcOdfWeb.Queue.PlainQueue
import NdcOdfWeb.Delta.MakeDelta
import NdcOdfWeb.Delta.DeltaCache
import NdcOdfWeb.Net.FrameStreams
import NdcOdfWeb.Net.FrameBounds
import NdcOdfWeb.Net.StreamRuns
import NdcOdfWeb.Net.PipeReader
import NdcOdfWeb.Net.Dispatcher
import NdcOdfWeb.Net.IncompleteChunks
import NdcOdfWeb.Sessions.CanonicalIds
import NdcOdfWeb.Sessions.ReadOnly
import NdcOdfWeb.Broker.DeferredRemovals
import NdcOdfWeb.Broker.Prespawn
import NdcOdfWeb.Broker.Bandwidth
import NdcOdfWeb.Queue.Priorities
import NdcOdfWeb.Rendering.SubscriptionVersions
import NdcOdfWeb.Rendering.OnFlyAgreement
import NdcOdfWeb.Rendering.CacheInvalidation
import NdcOdfWeb.Rendering.UniformRequests
import NdcOdfWeb.Rendering.SendingPasses
import NdcOdfWeb.Rendering.SenderConservation
import NdcOdfWeb.Rendering.InvalidationRequests
import NdcOdfWeb.Rendering.OutdatedSubscriptions
import NdcOdfWeb.Rendering.CombinedResponses
import NdcOdfWeb.Client.DialogImages
import NdcOdfWeb.Client.LoadRequests
import NdcOdfWeb.Client.HeaderIterations
import NdcOdfWeb.Client.TileRows
import NdcOdfWeb.Protocol.Anonymization
import NdcOdfWeb.Sessions.LoadMessages
import NdcOdfWeb.Client.FlowControl
import NdcOdfWeb.Kit.TokenSafety
import NdcOdfWeb.Kit.PngLimits
import NdcOdfWeb.Kit.TileWindows
import NdcOdfWeb.Kit.Watermark
import NdcOdfWeb.Kit.Inactivity
import NdcOdfWeb.Kit.InvalidationPayloads
import NdcOdfWeb.Admin.ViewCounts
import NdcOdfWeb.Admin.IdleDocuments
import NdcOdfWeb.Trace.ReadBack
import NdcOdfWeb.Rendering.Quiescence
import NdcOdfWeb.Sessions.ClientDelivery
import NdcOdfWeb.Net.Links
import NdcOdfWeb.Kit.TileHashes
import NdcOdfWeb.Broker.DocBrokers
import NdcOdfWeb.Net.SocketPolls
import NdcOdfWeb.Rendering.CurrentTiles
