import Logistics.Library.Interleaving
import Logistics.Library.Table
import Logistics.Library.Text
import Logistics.Schema.Store
import Logistics.Library.Precision
import Logistics.Pricing.Breakdown
import Logistics.Tracking.Service
import Logistics.Tracking.Execution
import Logistics.Tracking.Concurrency
import Logistics.Tracking.Idempotency
import Logistics.Tracking.Replay
import Logistics.Tracking.Timeline
import Logistics.Quoting.Request
import Logistics.Quoting.Service
import Logistics.Quoting.Snapshot
import Logistics.Auth.Schema
import Logistics.Auth.Database
import Logistics.Auth.Service
import Logistics.Auth.Users
import Logistics.Auth.Execution
import Logistics.Auth.Sessions
import Logistics.Auth.Discipline
import Logistics.Auth.Mfa
import Logistics.Auth.Accounts
import Logistics.Auth.Rotation
import Logistics.Auth.Administrators
import Logistics.Library.Vouchers
import Logistics.Auth.Credentials
import Logistics.Auth.Completion
import Logistics.Shipping.Service
import Logistics.Shipping.Execution
import Logistics.Shipping.Reads
import Logistics.Shipping.Selection
import Logistics.Shipping.Copies
import Logistics.Shipping.TrackingCodes
import Logistics.Imports.Parsing
import Logistics.Imports.Service
import Logistics.Imports.Execution
import Logistics.Imports.Duplicates
import Logistics.Imports.Deliveries
import Logistics.Quoting.Eligibility
import Logistics.Shipping.SingleSelection
import Logistics.RateTables.Execution
import Logistics.RateTables.Checks
import Logistics.RateTables.Activation
import Logistics.RateTables.Coverages
import Logistics.Library.Intervals
import Logistics.RateTables.Ranges
import Logistics.RateTables.Versions
import Logistics.RateTables.History
import Logistics.Auth.Enrolment
import Logistics.Auth.Gate
import Logistics.Imports.Cancellation
import Logistics.Tracking.Delivery
import Logistics.RateTables.PostalBounds
import Logistics.RateTables.CoverageTest
import Logistics.Auth.Invitations
import Logistics.Library.Window
import Logistics.LoginAttempts.Service
import Logistics.LoginAttempts.Fallback
import Logistics.LoginAttempts.Expiry
import Logistics.Library.Expansion
import Logistics.LoginAttempts.Logins
import Logistics.LoginAttempts.Limit
import Logistics.Realtime.Gateway
import Logistics.Realtime.Rooms
import Logistics.Auth.Providers
import Logistics.Auth.Resets
import Logistics.Imports.Redelivery
import Logistics.Imports.Outcome
import Logistics.Pricing.Comparison
import Logistics.Pricing.Discounts
import Logistics.Quoting.Listing
import Logistics.Shipping.Ranking
import Logistics.Branches.MainBranch
import Logistics.Carriers.Limits
import Logistics.Imports.Reading
import Logistics.Imports.Ownership
import Logistics.Dashboard.Schema
import Logistics.Dashboard.Service
import Logistics.Dashboard.Prices
import Logistics.Imports.Columns
import Logistics.Imports.Numbering
import Logistics.Imports.Csv
import Logistics.Customers.Documents
import Logistics.Imports.Filenames
import Logistics.Imports.Documents
import Logistics.Imports.Effects
import Logistics.Imports.Conflicts
import Logistics.Imports.Leftovers
import Logistics.Imports.Passes
import Logistics.Imports.Resources
import Logistics.Imports.Repeats
import Logistics.Imports.Formulas
import Logistics.Imports.Contributions
import Logistics.Imports.Completion
import Logistics.Auth.Base32
import Logistics.Insights.Generators
import Logistics.Insights.Service
import Logistics.Library.Labels
import Logistics.Dashboard.Groups
import Logistics.Insights.DedupeKeys
import Logistics.Insights.Losses
import Logistics.Insights.Refreshes
import Logistics.Dashboard.Days
import Logistics.Dashboard.Rates
import Logistics.Customers.Search
import Logistics.Library.Decimals
import Logistics.Forms.Normalizers
import Logistics.Quoting.Dimensions
import Logistics.Imports.Headers
import Logistics.Imports.Preview
import Logistics.Imports.Merging
import Logistics.Library.Ledger
import Logistics.Realtime.Delivery
import Logistics.Customers.Service
import Logistics.Insights.Lifecycle
import Logistics.Customers.Integrity
import Logistics.Library.Files
import Logistics.Library.Paths
import Logistics.Imports.Storage
