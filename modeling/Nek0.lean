import Nek0.Library.Run
import Nek0.Guarantees.Coalescing
import Nek0.Abstract.Voice
import Nek0.Guarantees.EventOrder
import Nek0.Guarantees.StopIsFinal
import Nek0.Guarantees.NoDuplicateSessions
import Nek0.Guarantees.OrderlySessions
import Nek0.Guarantees.Handover
import Nek0.Guarantees.BoundedReconnection
import Nek0.Guarantees.SessionLifecycle
import Nek0.Guarantees.NoZombieConnection
import Nek0.Guarantees.Playback
import Nek0.Guarantees.SequenceNumbers
import Nek0.Guarantees.SlotOrder
import Nek0.Guarantees.CurrentChannel
import Nek0.Guarantees.VoiceMirror
import Nek0.Guarantees.SessionFrames
import Nek0.Guarantees.MuteChoices
import Nek0.Guarantees.EncoderFocus
import Nek0.Guarantees.MicPrivacy
import Nek0.Guarantees.TransferOutcomes
import Nek0.Guarantees.IdentityKept
import Nek0.Guarantees.IdentityPersisted
import Nek0.Guarantees.FileAnswers
import Nek0.Guarantees.WhisperLeak
import Nek0.Guarantees.WhisperTargets
import Nek0.Guarantees.OwnClient
import Nek0.Guarantees.PrivateThreads
import Nek0.Guarantees.IconResults
import Nek0.Guarantees.VolumesFollow
import Nek0.Guarantees.WellFormedTabs
import Nek0.Guarantees.ChannelRestored
import Nek0.Guarantees.PreferencesHold
import Nek0.Guarantees.HistoryRestored
import Nek0.Guarantees.HistoryComplete
import Nek0.Guarantees.ErasedForGood
import Nek0.Guarantees.BookmarksKept
import Nek0.Guarantees.TruthfulNetwork
import Nek0.Guarantees.FocusTransparent
import Nek0.Guarantees.ResumeMute
import Nek0.Guarantees.NotificationTruth
import Nek0.Guarantees.BadEvent
import Nek0.Guarantees.OnePollChain
import Nek0.Guarantees.DegradedMode
import Nek0.Guarantees.QueueAccounts
import Nek0.Guarantees.LogTransparent
import Nek0.Guarantees.LogSecrets
import Nek0.Guarantees.ReleaseWindow
import Nek0.Guarantees.VoiceFraming
import Nek0.Guarantees.VoiceNumbers
import Nek0.Guarantees.Terminators
import Nek0.Guarantees.BanTargets
import Nek0.Guarantees.Jitter
import Nek0.Guarantees.Bandwidth
import Nek0.Guarantees.CanonicalTargets
import Nek0.Guarantees.GroupIcons
import Nek0.Guarantees.CompleteDownloads
import Nek0.Guarantees.TransferIds
import Nek0.Guarantees.CancelledTransfers
import Nek0.Guarantees.AudioCleanup
import Nek0.Guarantees.HintsOfVisit
import Nek0.Guarantees.ChannelOrder
import Nek0.Guarantees.ChannelWalks
import Nek0.Guarantees.HistoryRoundTrip
import Nek0.Guarantees.ThreadPartition
import Nek0.Guarantees.FileNames
import Nek0.Guarantees.Mentions
import Nek0.Guarantees.TablesShown
import Nek0.Guarantees.FailureReasons
import Nek0.Guarantees.VolumesStay
import Nek0.Guarantees.ManualOrder
import Nek0.Guarantees.DelayBounds
import Nek0.Guarantees.CaptureExact
import Nek0.Guarantees.RouteRemembered
import Nek0.Guarantees.BackupRoundTrip
import Nek0.Guarantees.SecureFilesAtomic
import Nek0.Guarantees.KeyedValuesHidden
import Nek0.Source.Packets
import Nek0.Library.SortedMap
import Nek0.Source.PacketNumbers
import Nek0.Source.PacketKeys
import Nek0.Source.Resender
import Nek0.Source.PacketCodec
import Nek0.Source.CodecEffects
import Nek0.Source.PacketLink
import Nek0.Source.LinkEffects
import Nek0.Guarantees.KeysNeverReused
import Nek0.Source.CommandFragments
import Nek0.Source.CommandChannel
import Nek0.Guarantees.CommandsInOrder
import Nek0.Source.ResendEffects
import Nek0.Source.AckEffects
import Nek0.Guarantees.ResendQueue
import Nek0.Guarantees.PacketFormat
import Nek0.Guarantees.KeptUntilAcked
import Nek0.Guarantees.AcksTruthful
