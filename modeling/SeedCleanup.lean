import SeedCleanup.Api.Reply
import SeedCleanup.Config.Load
import SeedCleanup.Inventory.Request
import SeedCleanup.Main
import SeedCleanup.Media.Backend
import SeedCleanup.Proofs.CheckedAssembly
import SeedCleanup.Proofs.DeletionOrder
import SeedCleanup.Proofs.DeletionProtocol
import SeedCleanup.Proofs.DryRun
import SeedCleanup.Proofs.FetchCounts
import SeedCleanup.Proofs.FileNames
import SeedCleanup.Proofs.FleetRefresh
import SeedCleanup.Proofs.GuardedRemoval
import SeedCleanup.Proofs.IdGrammar
import SeedCleanup.Proofs.Interleaving
import SeedCleanup.Proofs.LaterVerdicts
import SeedCleanup.Proofs.LibraryAgreement
import SeedCleanup.Proofs.LinkRules
import SeedCleanup.Proofs.LinkedTorrents
import SeedCleanup.Proofs.ListingTheorems
import SeedCleanup.Proofs.LoadedCopies
import SeedCleanup.Proofs.MemberTheorems
import SeedCleanup.Proofs.RefreshProtocol
import SeedCleanup.Proofs.RemovalTheorems
import SeedCleanup.Proofs.Replay
import SeedCleanup.Proofs.ReportTheorems
import SeedCleanup.Proofs.RetriedDeletion
import SeedCleanup.Proofs.RowSelection
import SeedCleanup.Proofs.RuleOrder
import SeedCleanup.Proofs.SeasonGuard
import SeedCleanup.Proofs.SeasonMonitoring
import SeedCleanup.Proofs.SettingOverrides
import SeedCleanup.Proofs.SharedTorrents
import SeedCleanup.Proofs.SideInterleaving
import SeedCleanup.Proofs.TorrentOrder
import SeedCleanup.Startup.Run
import SeedCleanup.Torrent.Backend
import SeedCleanup.Tracker.Resolver
