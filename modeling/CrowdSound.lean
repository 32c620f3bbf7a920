import CrowdSound.Library.EventRun
import CrowdSound.Library.KeyedHistory
import CrowdSound.Library.Delimited
import CrowdSound.Library.OneShot
import CrowdSound.Library.ChangeDetector
import CrowdSound.Foundation
import CrowdSound.Votes.VotesCache
import CrowdSound.Service.GRXConcurrentWriteable
import CrowdSound.Service.CSServiceInterface
import CrowdSound.Service.Completion
import CrowdSound.Service.UserIds
import CrowdSound.Scraper.SpotifyDataScraper
import CrowdSound.Library.RequestTable
import CrowdSound.Library.ObjectArrays
import CrowdSound.Scraper.SendMusicData
import CrowdSound.Playing.PlayingTables
import CrowdSound.Playing.VoteHistory
import CrowdSound.Bubbles.Scene
import CrowdSound.Bubbles.Trending
import CrowdSound.Bubbles.TrendingVotes
import CrowdSound.Bubbles.TrendingArtists
import CrowdSound.Bubbles.FailedVotes
import CrowdSound.Playing.Fetches
import CrowdSound.Playing.QueueSections
import CrowdSound.Playing.SongChanges
import CrowdSound.Playing.Screen
import CrowdSound.Playing.ScreenRuns
import CrowdSound.Playing.RecycledCells
import CrowdSound.Playing.RowAccess
import CrowdSound.Playing.VoteProgress
import CrowdSound.Playing.ShownSongs
import CrowdSound.Playing.Skips
import CrowdSound.Bubbles.SceneRuns
import CrowdSound.Bubbles.Selection
import CrowdSound.Bubbles.Removals
import CrowdSound.Bubbles.Callbacks
import CrowdSound.Bubbles.Releases
import CrowdSound.Bubbles.DelegateIndexes
import CrowdSound.Bubbles.PressedNode
import CrowdSound.Bubbles.Drags
import CrowdSound.Bubbles.RemovalIndexes
import CrowdSound.Bubbles.NodeChanges
import CrowdSound.Bubbles.FrozenNodes
import CrowdSound.Bubbles.BubbleMembers
import CrowdSound.Bubbles.Commit
import CrowdSound.Bubbles.Pushes
import CrowdSound.Library.TimedActions
import CrowdSound.Bubbles.Animations
import CrowdSound.Library.Patterns
import CrowdSound.Address.IPAddressViewController
import CrowdSound.Library.WhileLoop
import CrowdSound.Bubbles.HitTests
import CrowdSound.Library.Comparators
import CrowdSound.Bubbles.CommitOrder
import CrowdSound.Library.OpGroups
import CrowdSound.Core.GrpcCall
import CrowdSound.Core.CallEvents
import CrowdSound.Core.Completions
import CrowdSound.Core.Frames
import CrowdSound.Core.Batches
import CrowdSound.Core.Settled
import CrowdSound.Core.Framing
import CrowdSound.Core.Receiving
import CrowdSound.Core.Messages
import CrowdSound.Core.MessageFlow
import CrowdSound.Core.Closing
import CrowdSound.Core.Alarms
import CrowdSound.Core.Waiting
import CrowdSound.Core.Sending
import CrowdSound.Core.InitialMetadata
import CrowdSound.Core.SingleBatches
import CrowdSound.Client.CallRuns
import CrowdSound.Client.CoreRuns
import CrowdSound.Client.Requests
import CrowdSound.Client.Finishes
import CrowdSound.Client.Resting
import CrowdSound.Client.Reading
