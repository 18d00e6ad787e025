import CatalogFeed.Main
import CatalogFeed.Fault
import CatalogFeed.Proofs.Feed.Alteration
import CatalogFeed.Proofs.Feed.Policy
import CatalogFeed.Proofs.Message
import CatalogFeed.Proofs.Publish.Custody
import CatalogFeed.Proofs.Replay.EventLog
import CatalogFeed.Proofs.Replay.Contents
import CatalogFeed.Proofs.Replay.Course
import CatalogFeed.Proofs.Replay.Composition
import CatalogFeed.Proofs.Bus.Account
import CatalogFeed.Proofs.Bus.Ledger
import CatalogFeed.Proofs.Bus.Beset
import CatalogFeed.Proofs.Publish.Posting
import CatalogFeed.Proofs.Replay.Accounts
import CatalogFeed.Proofs.Feed.FixedTopic
import CatalogFeed.Proofs.Feed.Creation
import CatalogFeed.Proofs.Feed.Contention
import CatalogFeed.Proofs.Feed.Persistence
import CatalogFeed.Proofs.Catalog.Renaming
import CatalogFeed.Proofs.Config.Precedence
import CatalogFeed.Proofs.Config.Properties
import CatalogFeed.Proofs.Config.RoundTrip
import CatalogFeed.Proofs.Replay.Encoding
import CatalogFeed.Proofs.Feed.Databases
import CatalogFeed.Proofs.CommandLine.Report
import CatalogFeed.Proofs.CommandLine.Seeding
import CatalogFeed.Proofs.Catalog.Spelling
import CatalogFeed.Proofs.Feed.SeparateTopics
import CatalogFeed.Proofs.Bus.Observers
import CatalogFeed.Proofs.Publish.Abandonment
import CatalogFeed.Proofs.Kafka.Reports
import CatalogFeed.Proofs.Catalog.Arrangement
import CatalogFeed.Proofs.Catalog.Forms
import CatalogFeed.Proofs.Kafka.Staleness
