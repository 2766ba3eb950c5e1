import SwitchRemake.Lib.JsNumber
import SwitchRemake.Lib.Token
import SwitchRemake.Simulation.Tagger
import SwitchRemake.Game.GameSession
import SwitchRemake.Game.SingleTagger
import SwitchRemake.Simulation.Shape
import SwitchRemake.Simulation.Storm
import SwitchRemake.Game.FilteredView
import SwitchRemake.Game.TileSync
import SwitchRemake.Lib.KeyedList
import SwitchRemake.Rooms.LobbyState
import SwitchRemake.Rooms.Room
import SwitchRemake.Game.GameLifecycle
import SwitchRemake.Game.HostedRoom
import SwitchRemake.Rooms.Seats
import SwitchRemake.Game.MatchLaws
import SwitchRemake.Game.Acts
import SwitchRemake.Game.Operations
import SwitchRemake.Game.Lineup
import SwitchRemake.Game.Spectators
import SwitchRemake.Game.Ghosts
import SwitchRemake.Game.MatchIds
import SwitchRemake.Simulation.Casts
import SwitchRemake.Simulation.Turns
import SwitchRemake.Game.RoleChanges
import SwitchRemake.Simulation.Frenzy
import SwitchRemake.Simulation.Shuffle
import SwitchRemake.Game.MatchResult
import SwitchRemake.Simulation.Books
import SwitchRemake.Game.Accounting
import SwitchRemake.Lib.ByteReader
import SwitchRemake.Lib.TextDecoder
import SwitchRemake.Shared.SnapshotCodec
import SwitchRemake.Shared.SnapshotRoundTrip
import SwitchRemake.Lib.Json
import SwitchRemake.Lib.JsonRoundTrip
import SwitchRemake.Shared.ReplayFormat
import SwitchRemake.Shared.ReplayChunks
import SwitchRemake.Shared.ReplayRoundTrip
import SwitchRemake.Matching.Database
import SwitchRemake.Matching.ResultService
import SwitchRemake.Matching.ResultCodec
import SwitchRemake.Matching.ResultLaws
import SwitchRemake.Matching.SanctionLaws
import SwitchRemake.Matching.Moderation
import SwitchRemake.Matching.AccountStatus
import SwitchRemake.Matching.Reregistration
import SwitchRemake.Matching.ResultRun
import SwitchRemake.Matching.RoomsService
import SwitchRemake.Matching.JoinLaws
import SwitchRemake.Redis.ResultJournal
import SwitchRemake.Redis.OutboxRun
import SwitchRemake.Redis.CommandConsumer
import SwitchRemake.Redis.CommandRun
import SwitchRemake.Matching.CarryOver
import SwitchRemake.Game.SessionTurns
import SwitchRemake.Game.LastFrame
import SwitchRemake.Game.Outcomes
import SwitchRemake.Auth.VerificationCode
import SwitchRemake.Auth.CodeOnce
import SwitchRemake.Auth.GuessBound
import SwitchRemake.Matching.Reports
import SwitchRemake.Matching.ReportLaws
import SwitchRemake.Rooms.Housing
import SwitchRemake.Game.SeatRun
import SwitchRemake.Client.WorldScene
import SwitchRemake.Client.SceneNames
import SwitchRemake.Shared.SnapshotWired
import SwitchRemake.Client.BufferedSnapshots
import SwitchRemake.Client.SceneView
import SwitchRemake.Client.LateRenderer
import SwitchRemake.Shared.HumanRound
import SwitchRemake.Auth.HumanChallenge
import SwitchRemake.Auth.HumanBooks
import SwitchRemake.Auth.HumanGuess
import SwitchRemake.Gateway.Tickets
import SwitchRemake.Gateway.RoomAdmission
import SwitchRemake.Gateway.SingleUse
import SwitchRemake.Auth.SecondFactor
import SwitchRemake.Auth.FactorOnce
import SwitchRemake.Auth.FactorAuthority
import SwitchRemake.Auth.LoginChallenges
import SwitchRemake.Registry.GameRegistry
import SwitchRemake.Registry.HandOff
import SwitchRemake.Registry.Fencing
import SwitchRemake.Registry.Ownership
import SwitchRemake.Registry.ExclusiveHandOff
import SwitchRemake.Supervisor.Fleet
import SwitchRemake.Supervisor.Draining
import SwitchRemake.Supervisor.Flapping
import SwitchRemake.Game.Scheduler
import SwitchRemake.Game.RoomFailure
import SwitchRemake.Client.GameConnection
import SwitchRemake.Client.OneSocket
import SwitchRemake.Lib.BreadthFirst
import SwitchRemake.Training.Routes
import SwitchRemake.Training.TrainingGround
import SwitchRemake.Training.TrainingRun
import SwitchRemake.Training.RouteCache
import SwitchRemake.Training.Courses
import SwitchRemake.Simulation.Holder
import SwitchRemake.Training.TrainingRoles
import SwitchRemake.Rooms.Broadcast
import SwitchRemake.Game.EffectMessages
import SwitchRemake.Client.ReplayAnalysis
import SwitchRemake.Game.SessionRecorder
import SwitchRemake.Game.PreviousTagger
import SwitchRemake.Client.ReplayTotals
import SwitchRemake.Simulation.Ledger
import SwitchRemake.Game.SessionLedger
import SwitchRemake.Game.ReplayAgreement
import SwitchRemake.Game.SchedulerTime
import SwitchRemake.Rooms.StartLock
import SwitchRemake.Gateway.ConnectionManager
import SwitchRemake.Shared.Input
import SwitchRemake.Game.HeldInput
import SwitchRemake.Simulation.Blink
import SwitchRemake.Simulation.TilePush
import SwitchRemake.Simulation.WallPush
import SwitchRemake.Simulation.FarBorders
import SwitchRemake.Simulation.WallClearance
import SwitchRemake.Lib.ShortestPath
import SwitchRemake.Training.ShortestRoutes
import SwitchRemake.Shared.HumanScene
import SwitchRemake.Shared.OneAnswer
import SwitchRemake.Gateway.RateLimit
import SwitchRemake.Gateway.RateLaws
import SwitchRemake.Gateway.ClientAddress
import SwitchRemake.Gateway.ForgedAddress
import SwitchRemake.Auth.RefreshRotation
import SwitchRemake.Auth.TokenFamilies
import SwitchRemake.Game.RoomLife
import SwitchRemake.Game.Kicks
import SwitchRemake.Matching.Rematch
import SwitchRemake.Matching.NextMatch
import SwitchRemake.Shared.Levels
import SwitchRemake.Lib.Regroup
import SwitchRemake.Auth.Base32
import SwitchRemake.Lib.RoundRobin
import SwitchRemake.Lib.AffinePaths
import SwitchRemake.Lib.Trails
import SwitchRemake.Lib.Parity
import SwitchRemake.Client.RegionOutline
import SwitchRemake.Client.OutlineEdges
import SwitchRemake.Client.OutlineLoops
import SwitchRemake.Client.OutlineCorners
import SwitchRemake.Client.OutlineFill
import SwitchRemake.Client.Interpolation
import SwitchRemake.Client.SmoothMotion
import SwitchRemake.Redis.JournalBatches
import SwitchRemake.Game.MovedRoom
import SwitchRemake.Shared.ProofOfWork
import SwitchRemake.Matching.RequestMeter
import SwitchRemake.Gateway.RateLimitViolations
import SwitchRemake.Client.TokenRefresh
import SwitchRemake.Client.OneRefresh
