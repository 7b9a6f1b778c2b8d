import OtelOpenstack.SpanTree
import OtelOpenstack.FlowEnd
import OtelOpenstack.Threads
import OtelOpenstack.Deliveries
import OtelOpenstack.Traces
import OtelOpenstack.HostSafety
import OtelOpenstack.LogSetup
import OtelOpenstack.Undoing
import OtelOpenstack.FailedInstrument
import OtelOpenstack.TaskflowSwitch
import OtelOpenstack.LostSpans
import OtelOpenstack.AuthRecording
import OtelOpenstack.SharedSends
import OtelOpenstack.ClientStacks
import OtelOpenstack.ServerStacks
import OtelOpenstack.Bodies
import OtelOpenstack.Eventlet
import OtelOpenstack.HeaderNames
import OtelOpenstack.LogHandler
import OtelOpenstack.RecordFactory
import OtelOpenstack.Descriptions
import OtelOpenstack.TokenFlows
import OtelOpenstack.Programs
import OtelOpenstack.Verdicts
import OtelOpenstack.Forks
import OtelOpenstack.Startup
import OtelOpenstack.Secrets
import OtelOpenstack.RequestHooks
import OtelOpenstack.Correlation
import OtelOpenstack.FlowTraces
import OtelOpenstack.OpenSpans
import OtelOpenstack.LogExports
