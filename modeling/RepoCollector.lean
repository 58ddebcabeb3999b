import RepoCollector.Main
import RepoCollector.Simulation.CollectionRun
import RepoCollector.Simulation.LaneRun
import RepoCollector.Simulation.MetricsRun
import RepoCollector.Simulation.PoolRun
import RepoCollector.Simulation.ProviderRun
import RepoCollector.Simulation.QueueRun
import RepoCollector.Simulation.SchedulerRun
import RepoCollector.Simulation.UpdatesRun
import RepoCollector.Proofs.Play
import RepoCollector.Proofs.Queue.Accounts
import RepoCollector.Proofs.Queue.Session
import RepoCollector.Proofs.Queue.Closing
import RepoCollector.Proofs.Queue.Places
import RepoCollector.Proofs.Queue.Calm
import RepoCollector.Proofs.Queue.Turnstile
import RepoCollector.Proofs.Queue.Fairness
import RepoCollector.Proofs.Discovery.Turn
import RepoCollector.Proofs.Discovery.Delivery
import RepoCollector.Proofs.Schedule.Dispatch
import RepoCollector.Proofs.Pool.Turn
import RepoCollector.Proofs.Discovery.Updates
import RepoCollector.Proofs.Metrics.Tally
import RepoCollector.Proofs.Metrics.Series
import RepoCollector.Proofs.Metrics.Census
import RepoCollector.Proofs.Pool.Ledger
import RepoCollector.Proofs.Pool.Roster
import RepoCollector.Proofs.Pool.Halt
import RepoCollector.Proofs.Pool.Receipts
import RepoCollector.Proofs.Collection.Drain
import RepoCollector.Proofs.Firsts
import RepoCollector.Proofs.Schedule.Streak
import RepoCollector.Proofs.Schedule.Leaving
import RepoCollector.Proofs.Schedule.Visits
import RepoCollector.Proofs.Queue.Wakeups
import RepoCollector.Proofs.Schedule.Hall
import RepoCollector.Proofs.Schedule.Waiting
import RepoCollector.Proofs.Schedule.Vigil
import RepoCollector.Proofs.Discovery.Paging
import RepoCollector.Proofs.Text
import RepoCollector.Proofs.Endpoint.Identifiers
import RepoCollector.Proofs.Endpoint.Credentials
import RepoCollector.Proofs.Library.Files
import RepoCollector.Proofs.Library.Shelves
import RepoCollector.Proofs.Library.Downloads
import RepoCollector.Proofs.Library.Inventory
import RepoCollector.Proofs.Library.Tree
import RepoCollector.Proofs.Library.Turn
import RepoCollector.Proofs.Library.Workshop
import RepoCollector.Proofs.Library.Mirrors
import RepoCollector.Proofs.Library.Staging
import RepoCollector.Proofs.Library.Depot
import RepoCollector.Proofs.Library.Trials
import RepoCollector.Proofs.Discovery.Encounters
import RepoCollector.Proofs.Discovery.Pauses
import RepoCollector.Proofs.Discovery.Rollcall
import RepoCollector.Proofs.Discovery.Limits
import RepoCollector.Proofs.Discovery.Career
import RepoCollector.Proofs.Discovery.Handshake
import RepoCollector.Proofs.Endpoint.Spellings
import RepoCollector.Proofs.Endpoint.Confinement
import RepoCollector.Proofs.Endpoint.Tokens
import RepoCollector.Proofs.Number.Doubles
import RepoCollector.Proofs.Number.Seconds
import RepoCollector.Proofs.Schedule.Enquiry
import RepoCollector.Proofs.Backoff
import RepoCollector.Proofs.Library.Tour
import RepoCollector.Proofs.Json.Words
import RepoCollector.Proofs.Json.Written
import RepoCollector.Proofs.Discovery.Pages
