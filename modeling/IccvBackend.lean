import IccvBackend.Lib.Transitions
import IccvBackend.Lib.Keyed
import IccvBackend.Lib.Table
import IccvBackend.Lib.Brake
import IccvBackend.Lib.Cents
import IccvBackend.Lib.Trail
import IccvBackend.Lib.Tasks
import IccvBackend.Prisma.Schema
import IccvBackend.Prisma.Database
import IccvBackend.Prisma.Audit
import IccvBackend.Gateways.Types
import IccvBackend.Gateways.Discount
import IccvBackend.Gateways.RequestedTotal
import IccvBackend.Event.Reactivation
import IccvBackend.Event.Waitlist
import IccvBackend.Event.Bedrooms
import IccvBackend.Event.Purchase
import IccvBackend.Event.Edit
import IccvBackend.Event.Minors
import IccvBackend.Payment.Service
import IccvBackend.Payment.Checkout
import IccvBackend.Cron.Reconcile
import IccvBackend.Webhooks.Adapters
import IccvBackend.Webhooks.Service
import IccvBackend.Webhooks.Reply
import IccvBackend.Whatsapp.Service
import IccvBackend.System
import IccvBackend.Treasury.Ledger
import IccvBackend.Treasury.Concurrent
import IccvBackend.Treasury.CashBook
import IccvBackend.Treasury.Reconciling
import IccvBackend.Treasury.Planilha
import IccvBackend.Lib.Binary64
import IccvBackend.Proofs.SpreadsheetSums
import IccvBackend.Proofs.SpreadsheetReading
import IccvBackend.Proofs.Spreadsheet
import IccvBackend.Event.Update
import IccvBackend.Proofs.RejectedEdits
import IccvBackend.Treasury.Pluggy
import IccvBackend.Membros.Service
import IccvBackend.Pdf.Fila
import IccvBackend.Pdf.Navegador
import IccvBackend.Notificacoes.Notificar
import IccvBackend.Auth.Tenant
import IccvBackend.Auth.Guards
import IccvBackend.Auth.Password
import IccvBackend.Church.Service
import IccvBackend.User.Service
import IccvBackend.Auth.Panel
import IccvBackend.Auth.Accounts
import IccvBackend.Auth.PasswordReset
import IccvBackend.Auth.Google
import IccvBackend.Auth.CodesInFlight
import IccvBackend.Auth.Login
import IccvBackend.Terms.Service
import IccvBackend.Proofs.Stock
import IccvBackend.Proofs.ChargeChoice
import IccvBackend.Proofs.RegistrationEdit
import IccvBackend.Proofs.Rows
import IccvBackend.Proofs.Amounts
import IccvBackend.Proofs.StatusWrites
import IccvBackend.Proofs.Paid
import IccvBackend.Proofs.Refunds
import IccvBackend.Proofs.Reconciliation
import IccvBackend.Proofs.Tickets
import IccvBackend.Proofs.Links
import IccvBackend.Proofs.OldLinks
import IccvBackend.Proofs.Charges
import IccvBackend.Proofs.Isolation
import IccvBackend.Proofs.Forgery
import IccvBackend.Proofs.MoneyTrail
import IccvBackend.Proofs.Seats
import IccvBackend.Proofs.Waiting
import IccvBackend.Proofs.Bedrooms
import IccvBackend.Proofs.EventEdits
import IccvBackend.Proofs.Minors
import IccvBackend.Proofs.Distribution
import IccvBackend.Proofs.CashBook
import IccvBackend.Proofs.Books
import IccvBackend.Proofs.Reconciling
import IccvBackend.Proofs.Ledger
import IccvBackend.Proofs.Guards
import IccvBackend.Proofs.RecordEdits
import IccvBackend.Proofs.Profiles
import IccvBackend.Proofs.Escalation
import IccvBackend.Proofs.CodeLifetime
import IccvBackend.Proofs.CodesInFlight
import IccvBackend.Proofs.Documents
import IccvBackend.Proofs.GoogleLinks
import IccvBackend.Proofs.LoginBrake
import IccvBackend.Proofs.Decisions
import IccvBackend.Proofs.RequestStatus
import IccvBackend.Proofs.Counter
import IccvBackend.Proofs.CheckinStamps
import IccvBackend.Proofs.AutoBedrooms
import IccvBackend.Proofs.PhotoQueue
import IccvBackend.Proofs.ProviderConfigs
import IccvBackend.Proofs.RevokedSecrets
import IccvBackend.Proofs.PrintedCodes
import IccvBackend.Proofs.Schedules
import IccvBackend.Proofs.ScheduledDispatch
import IccvBackend.Proofs.NewsCalendar
import IccvBackend.Proofs.Discounts
import IccvBackend.Proofs.Categories
import IccvBackend.Proofs.Families
import IccvBackend.Proofs.FilaDePdf
import IccvBackend.Proofs.SharedBrowser
import IccvBackend.Proofs.ShownTerms
import IccvBackend.Proofs.Consent
import IccvBackend.Proofs.BankAccounts
import IccvBackend.Proofs.Reactivations
import IccvBackend.Proofs.Acknowledged
import IccvBackend.Proofs.WhatsappSession
import IccvBackend.Lib.Greedy
import IccvBackend.Treasury.Conciliacao
import IccvBackend.Proofs.SuggestedPairs
import IccvBackend.Treasury.Nomes
import IccvBackend.Proofs.RowPerson
import IccvBackend.Lib.EditDistance
import IccvBackend.Proofs.AlmostSameWord
import IccvBackend.Lib.Pairing
import IccvBackend.Proofs.WordPairing
import IccvBackend.Prisma.Snapshots
import IccvBackend.Logs.LogDiff
import IccvBackend.Proofs.LogDiff
import IccvBackend.Bedrooms.Service
import IccvBackend.Proofs.FailedRoomEdits
import IccvBackend.Proofs.RoomStatements
import IccvBackend.Proofs.SnapshotPairs
import IccvBackend.Lib.Sync
import IccvBackend.Proofs.ProductWrites
import IccvBackend.Proofs.ProductDiff
import IccvBackend.Checkin.Panel
import IccvBackend.Lib.JsonText
import IccvBackend.Lib.Base64
import IccvBackend.Crypto.SecretCrypto
import IccvBackend.Proofs.SealedSecrets
import IccvBackend.Dashboard.Service
import IccvBackend.News.Whatsapp
import IccvBackend.Proofs.NewsRounds
import IccvBackend.Proofs.Dashboard
import IccvBackend.Proofs.CheckinPanel
import IccvBackend.Proofs.Bell
import IccvBackend.Lib.WorkerPool
import IccvBackend.Pdf.Imagens
import IccvBackend.Proofs.ImageWorkers
import IccvBackend.Lib.Upsert
import IccvBackend.Whatsapp.AuthStore
import IccvBackend.Proofs.AuthStore
import IccvBackend.Proofs.SessionRegistry
import IccvBackend.Lib.Turns
import IccvBackend.Proofs.MessageQueue
import IccvBackend.Proofs.TermCalls
import IccvBackend.Treasury.Fechamento
import IccvBackend.Proofs.ClosedTreasuries
import IccvBackend.News.Publicacao
import IccvBackend.Proofs.NewsDestinations
import IccvBackend.Logs.Atividades
import IccvBackend.Proofs.Redaction
import IccvBackend.Team.Service
import IccvBackend.Proofs.Teams
