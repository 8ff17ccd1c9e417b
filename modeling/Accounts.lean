import Accounts.Agents.Admission
import Accounts.Agents.Assignment
import Accounts.Agents.Confinement
import Accounts.Agents.RefundAccess
import Accounts.Auth.RateLimit
import Accounts.Email.OptOut
import Accounts.Finance.Agreement
import Accounts.Finance.AuditTrail
import Accounts.Finance.Facts
import Accounts.Finance.RefundOnce
import Accounts.Migrate.BusinessOrder
import Accounts.Overlay.Addresses
import Accounts.Overlay.Isolation
import Accounts.Overlay.Mesh
import Accounts.Overlay.Policy
import Accounts.Overlay.Registrations
import Accounts.Overlay.Revocation
import Accounts.Quota.Catalog
import Accounts.Referrals.Rejection
import Accounts.Subscriptions.EarlierEnd
import Accounts.Subscriptions.Preview
import Accounts.Subscriptions.Purchase
import Accounts.Tasks.Capacity
import Accounts.Tasks.Fairness
import Accounts.Tasks.Reports
import Accounts.Users.RecoveryCodes
import Accounts.Users.Teams
import Accounts.Xray.Sync
