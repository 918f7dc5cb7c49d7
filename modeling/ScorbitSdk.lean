import ScorbitSdk.ModesJson
import ScorbitSdk.GameStateSessionIds
import ScorbitSdk.GameHistoryCsv
import ScorbitSdk.SessionErasure
import ScorbitSdk.SessionUpdates
import ScorbitSdk.PublishedOrder
import ScorbitSdk.GameEndPublication
import ScorbitSdk.PublishingChain
import ScorbitSdk.SubmissionOrder
import ScorbitSdk.WorkerTasks
import ScorbitSdk.WorkerEffects
import ScorbitSdk.WorkerStrands
import ScorbitSdk.Authentication
import ScorbitSdk.WorkerStarvation
import ScorbitSdk.SessionTable
import ScorbitSdk.GameStateHandovers
import ScorbitSdk.NetHandlers
import ScorbitSdk.StatusSoundness
import ScorbitSdk.LostWakeUps
import ScorbitSdk.PairingEvents
import ScorbitSdk.PairedContext
import ScorbitSdk.TopScores
import ScorbitSdk.LruCache
import ScorbitSdk.PlayerPictures
import ScorbitSdk.Discovery
import ScorbitSdk.SoftwareTpm
import ScorbitSdk.EventDelivery
import ScorbitSdk.RetiredClients
import ScorbitSdk.TokenConfinement
import ScorbitSdk.ApiQueue
import ScorbitSdk.ModeExpirySchedule
import ScorbitSdk.EndlessRuns
import ScorbitSdk.DownloadTasks
import ScorbitSdk.HttpTasks
import ScorbitSdk.ArchiveExtraction
import ScorbitSdk.DiagnosticProbes
import ScorbitSdk.WorkerShutdown
import ScorbitSdk.StoredKeyTampering
import ScorbitSdk.LeaderboardSetups
import ScorbitSdk.ReplyCallbacks
import ScorbitSdk.NfcNonces
import ScorbitSdk.BinaryReplacement
import ScorbitSdk.MountTables
import ScorbitSdk.UpdaterExits
import ScorbitSdk.PlayerProfileResults
import ScorbitSdk.JwtParser
import ScorbitSdk.KeyMasks
import ScorbitSdk.Crc16
import ScorbitSdk.FirmwareUploads
import ScorbitSdk.FromStrings
import ScorbitSdk.TpmResponses
import ScorbitSdk.DiagnosticArchives
import ScorbitSdk.DiscoveryReports
import ScorbitSdk.SessionIdentity
import ScorbitSdk.HttpDates
import ScorbitSdk.ScoreMessages
import ScorbitSdk.ClientRecovery
import ScorbitSdk.TokenRequests
import ScorbitSdk.LogDelivery
