import NovaFund.Risk.Assess
import NovaFund.Risk.Ensemble
import NovaFund.Risk.Summary
import NovaFund.Pipeline.Provenance
import NovaFund.Pipeline.Retry
import NovaFund.Monitor.Alerts
import NovaFund.Monitor.Timers
import NovaFund.Monitor.Delivery
import NovaFund.Backend.DeadlineAlert
import NovaFund.Backend.EmailRetry
import NovaFund.Dashboard.Claim
import NovaFund.Backend.Settings
import NovaFund.Reputation.TrustScore
