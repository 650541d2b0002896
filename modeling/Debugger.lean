import Debugger.Main
import Debugger.Script
import Debugger.Proofs.Thread.Step
import Debugger.Proofs.Thread.Calls
import Debugger.Proofs.Thread.Transparency
import Debugger.Proofs.Thread.Stepping
import Debugger.Proofs.Thread.Effects
import Debugger.Proofs.Thread.Suspension
import Debugger.Proofs.Thread.Exceptions
import Debugger.Proofs.Thread.SafePoints
import Debugger.Proofs.Thread.Resuming
import Debugger.Proofs.Actions
import Debugger.Proofs.Debuggee.Deeds
import Debugger.Proofs.Debuggee.Counters
import Debugger.Proofs.Debuggee.Observers
import Debugger.Proofs.Debuggee.Shutdown
import Debugger.Proofs.Debuggee.Lifecycle
import Debugger.Proofs.Debuggee.Likeness
import Debugger.Proofs.Proxies.Consistency
import Debugger.Proofs.Proxies.Holds
import Debugger.Proofs.Notifier.Delivery
import Debugger.Proofs.Session.Runs
import Debugger.Proofs.Session.Breakpoints
import Debugger.Proofs.Session.Identity
import Debugger.Proofs.Session.Closing
import Debugger.Proofs.Session.Failure
import Debugger.Proofs.Debuggee.Services
import Debugger.Proofs.Session.Restart
import Debugger.Proofs.Debuggee.HitCounts
import Debugger.Proofs.Debuggee.Stack
import Debugger.Proofs.Debuggee.ThrowSites
import Debugger.Proofs.Naming.Stems
import Debugger.Proofs.Naming
import Debugger.Proofs.Proxies.Bindings
import Debugger.Proofs.Session.FreshNames
import Debugger.Proofs.Text
import Debugger.Proofs.Literal
import Debugger.Proofs.Debuggee.Boxing
import Debugger.Proofs.Debuggee.Parameters
import Debugger.Proofs.Session.RoundTrip
import Debugger.Proofs.Debuggee.Numbers
import Debugger.Proofs.Session.Inspection
import Debugger.Proofs.Proxies.Registry
import Debugger.Proofs.Log.Precedence
import Debugger.Proofs.Session.ClassViews
import Debugger.Proofs.Session.Listings
import Debugger.Proofs.Session.Programs
