import OtelC.Abi.LossyString
import OtelC.Baggage.Bounds
import OtelC.Baggage.Conformance
import OtelC.Baggage.HeaderSafe
import OtelC.Baggage.RoundTrip
import OtelC.Context.Discipline
import OtelC.Global.Exact
import OtelC.Metrics.BatchVisit
import OtelC.Metrics.Observers
import OtelC.Metrics.Recording
import OtelC.Metrics.Preorder
import OtelC.Metrics.UserData
import OtelC.Metrics.ViewTold
import OtelC.Trace.Accounting
import OtelC.Logs.BatchOrder
import OtelC.Logs.Emission
import OtelC.Logs.ExactPool
import OtelC.Trace.Agreement
import OtelC.Trace.Parenting
import OtelC.Trace.SpanDenotation
import OtelC.Trace.StartOptions
import OtelC.Trace.StateGrammar
import OtelC.Sdk.BatchProcessor
import OtelC.Sdk.CustomExporter
import OtelC.Sdk.ForceFlush
import OtelC.Sdk.GlobalShutdown
import OtelC.Sdk.HandOver
import OtelC.Sdk.OtlpHeaders
import OtelC.Diagnostic.Installs
import OtelC.Trace.SpanLife
import OtelC.Sdk.TracerSettings
import OtelC.Baggage.Map
import OtelC.Trace.Snapshot
import OtelC.Trace.Slot
import OtelC.Logs.LoggerLife
