import KarstflowTests.Comparison.Ignoring
import KarstflowTests.Comparison.Mirror
import KarstflowTests.Comparison.Parallel
import KarstflowTests.Comparison.Paths
import KarstflowTests.Comparison.Shapes
import KarstflowTests.Lifecycle.Leaks
import KarstflowTests.Lifecycle.Readiness
import KarstflowTests.Plugins.SessionReport
import KarstflowTests.Plugins.TimingReport
import KarstflowTests.Programs.CpiDepth
import KarstflowTests.Programs.CpiProxy
import KarstflowTests.Programs.CurveTest
import KarstflowTests.Programs.Ed25519
import KarstflowTests.Programs.LookupTable
import KarstflowTests.Programs.PdaCounterSafety
import KarstflowTests.Programs.Token
import KarstflowTests.Programs.UpgradeableLedger
import KarstflowTests.Rpc.HookLoops
import KarstflowTests.Rpc.Interception
import KarstflowTests.Rpc.MethodStats
import KarstflowTests.Rpc.Reports
import KarstflowTests.Rpc.RetryReference
import KarstflowTests.Rpc.SharedChain
import KarstflowTests.Rpc.SharedParams
import KarstflowTests.Rpc.Transparency
import KarstflowTests.Scenarios.Records
import KarstflowTests.State.Difference
import KarstflowTests.Suites
import KarstflowTests.Ws.Closing
import KarstflowTests.Ws.Notifications
import KarstflowTests.Ws.RegistryRuns
import KarstflowTests.Ws.Replies
