import Skolva.Basic
import Skolva.Sql.RowTrigger
import Skolva.Effect.Program
import Skolva.Effect.Pool
import Skolva.Effect.History
import Skolva.Accounting.Schema
import Skolva.Accounting.JournalLock
import Skolva.Auth.External
import Skolva.Auth.Reference
import Skolva.Auth.Store
import Skolva.Auth.Login
import Skolva.Auth.LoginFaults
import Skolva.Auth.Handler
import Skolva.Auth.Calls
import Skolva.Auth.TwoStepLogin
import Skolva.Auth.UsableAccounts
import Skolva.Auth.EmailLockout
import Skolva.Auth.RecoveryCodes
import Skolva.Auth.TotpLockout
import Skolva.Auth.TotpActivation
import Skolva.Auth.ResetRefinement
import Skolva.Auth.TotpSession
import Skolva.Auth.ResetTokens
import Skolva.Auth.Permissions
import Skolva.Auth.TotpHistory
import Skolva.Auth.EmailRefinement
import Skolva.Auth.PasswordHistory
import Skolva.Sql.Numeric
import Skolva.Sql.Query
import Skolva.WorkHours.Schema
import Skolva.WorkHours.Balance
import Skolva.Accounting.ConcurrentLock
import Skolva.Audit.Completeness
import Skolva.Audit.Order
import Skolva.Audit.Report
import Skolva.Crm.Contacts
import Skolva.Crm.PrimaryContacts
import Skolva.Effect.WriteBack
import Skolva.Groups.Service
import Skolva.FlagUpdates
import Skolva.Auth.FailingCalls
import Skolva.Auth.TotpSetup
import Skolva.Auth.AccountEnumeration
import Skolva.Auth.PartialWrites
import Skolva.Auth.ResetFaults
import Skolva.Auth.EmailOTPFaults
import Skolva.Auth.UnusedCodes
import Skolva.Auth.EndpointCalls
import Skolva.Auth.AccountLock
import Skolva.Effect.ClockedPool
import Skolva.Auth.EmailOTPSession
import Skolva.Auth.EmailOTPRaces
import Skolva.Auth.Directory
import Skolva.Crm.Profile
import Skolva.Crm.ContactOwner
import Skolva.Groups.Members
import Skolva.Api.Calls
import Skolva.Api.UserRows
import Skolva.Api.DeletedUsers
import Skolva.Api.DeletedGroups
import Skolva.Api.Memberships
import Skolva.Auth.Search
import Skolva.Sql.Paging
import Skolva.Api.Paging
import Skolva.Api.CheckedColumns
import Skolva.Api.PatchRequests
import Skolva.Auth.PasswordKeys
import Skolva.Auth.TotpFields
import Skolva.Auth.TokenKinds
import Skolva.Sql.ActorTrail
import Skolva.Audit.RowAuthors
import Skolva.Auth.UserAuthors
import Skolva.Crm.ContactAuthors
import Skolva.Groups.GroupAuthors
import Skolva.Api.Authors
import Skolva.Sql.SortedMap
import Skolva.Sql.Jsonb
import Skolva.Audit.JsonbDiff
import Skolva.Effect.Credentials
import Skolva.Auth.AccessTokens
import Skolva.Http.Requests
import Skolva.Http.Server
import Skolva.Http.Access
import Skolva.Http.Changes
import Skolva.Http.Authorization
import Skolva.Http.Factors
import Skolva.Effect.Simulation
import Skolva.Audit.Accounts
import Skolva.Auth.AuditedRequests
import Skolva.Api.Accounts
import Skolva.Http.Audited
import Skolva.Sql.Persistence
import Skolva.Http.Calls
import Skolva.Api.Persistence
import Skolva.Http.Records
import Skolva.Http.Revocation
import Skolva.Api.WellFormed
import Skolva.Http.Isolation
import Skolva.Http.Profiles
import Skolva.Http.WellFormed
import Skolva.Http.Writers
