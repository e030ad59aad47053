import OtelC.Context.Threads
import OtelC.Lib.Boxes
import OtelC.Lib.Simulation
import OtelC.Logs.Correlation
import OtelC.Sdk.Scopes

/-!
# Loggers

The entry points of the API for logger providers and loggers, with the SDK behind them, on threads
that attach contexts.  A provider handle stands for a provider of the SDK or, lazily, for the global
one, and a logger handle for a logger of the SDK or for none.  Where a context leads to another box
than the handle says the behaviour is undefined.

What the loggers of the SDK do with a record, and whether they are enabled, belongs to another
package: records are kept in the order in which they are handed over, and `eventEnabled` is a
parameter.
-/

namespace OtelC.Logs.Loggers

open OtelC.Context OtelC.Trace
open OtelC.Sdk (InstrumentationScope)
open OtelC.Scopes (Backing ScopeOptions getLoggerWithOptions)
open Boxes

/-! ### The two sides -/

/-- `SdkLogger`: the provider it came from, and its scope. -/
structure SdkLogger where
  provider : Nat
  scope : InstrumentationScope

/-- The boxes behind the contexts. -/
inductive Box where
  | provider (provider : Nat)
  | logger (logger : SdkLogger)

inductive HandleKind where
  | loggerProvider
  | logger
  deriving DecidableEq

/-- The handles of the API with the boxes of the SDK, the global provider, the contexts of the
threads, and what the loggers of the SDK were handed.  A provider handle without a context is a
global one, a logger handle without one has no vtable. -/
structure State where
  store : Store HandleKind Box
  installed : Option Nat
  process : Process
  emitted : List (SdkLogger × SdkLogRecord)

def State.initial : State := ⟨.empty, none, ⟨1, fun _ => .fresh⟩, []⟩

/-- `checked_ref`, and the context behind the handle. -/
def State.arg (s : State) (kind : HandleKind) : Option Nat → HandleArg (Option Nat) :=
  HandleArg.lookup s.store.handles (Boxes.Store.contextOf kind)

/-- `into_raw` of a handle, with the box that the SDK has just allocated. -/
def State.intoRaw (s : State) (kind : HandleKind) (box : Option Box) : State :=
  { s with store := s.store.create kind box }

/-- The argument with what its context leads to; `none` where that is something else. -/
def resolve {α : Type} (arg : HandleArg (Option Nat)) (f : Option Nat → Option α) :
    Option (HandleArg α) :=
  match arg with
  | .null => some .null
  | .dead => some .dead
  | .wrongKind => some .wrongKind
  | .live ctx => (f ctx).map .live

/-- The provider behind a handle; `retain_global_logs` takes the one that is installed now. -/
def State.provider (s : State) (handle : Option Nat) : Option (HandleArg Backing) :=
  resolve (s.arg .loggerProvider handle) fun ctx =>
    match ctx.map s.store.boxes with
    | none => some s.installed
    | some (some (.provider p)) => some (some p)
    | _ => none

/-- The logger of the SDK behind a handle. -/
def State.logger (s : State) (handle : Option Nat) : Option (HandleArg (Option SdkLogger)) :=
  resolve (s.arg .logger handle) fun ctx =>
    match ctx.map s.store.boxes with
    | none => some none
    | some (some (.logger l)) => some (some l)
    | _ => none

/-- Whether a logger is backed is all that the API looks at. -/
def apiLogger : HandleArg (Option SdkLogger) → HandleArg OtelLogger
  | .null => .null
  | .dead => .dead
  | .wrongKind => .wrongKind
  | .live none => .live .noop
  | .live (some _) => .live .backed

/-! ### The entry points -/

/-- What a call answers: a handle, a status with what the last error says, a flag, or a token. -/
inductive Reply where
  | handle (result : Except Fail Nat)
  | status (status : OtelStatus) (message : Option String)
  | enabled (enabled : Bool) (message : Option String)
  | scope (reply : Context.Reply)
  | done
  | undefined

/-- `otel_global_logger_provider`. -/
def State.globalLoggerProvider (s : State) : Reply × State :=
  (.handle (.ok s.store.nextHandle), s.intoRaw .loggerProvider none)

/-- `otel_api_logger_provider_new`, for the provider of an SDK. -/
def State.loggerProviderNew (s : State) (provider : Nat) : Reply × State :=
  (.handle (.ok s.store.nextHandle), s.intoRaw .loggerProvider (some (.provider provider)))

/-- The options that `otel_logger_provider_get_logger` makes. -/
def loggerOptions (name version schemaUrl : OtelStringView) : ScopeOptions :=
  ⟨72, name, version, schemaUrl, .null 0⟩

/-- `otel_logger_provider_get_logger_with_options`. -/
def State.getLogger (s : State) (provider : Option Nat) (options : Option ScopeOptions) :
    Reply × State :=
  match s.provider provider with
  | none => (.undefined, s)
  | some provider =>
    match getLoggerWithOptions provider options with
    | .error e => (.handle (.error e), s)
    | .ok backing =>
      (.handle (.ok s.store.nextHandle),
        s.intoRaw .logger (backing.map fun x => .logger ⟨x.1, x.2⟩))

/-- What an emission leaves behind. -/
def State.emits (s : State) (logger : HandleArg (Option SdkLogger)) (call : EmitCall) :
    Reply × State :=
  (.status call.status call.message,
    match logger, call.emitted with
    | .live (some l), some record => { s with emitted := s.emitted ++ [(l, record)] }
    | _, _ => s)

section Emit

variable (severityName : Severity → Str)

/-- `otel_logger_emit`. -/
def State.emit (s : State) (logger : Option Nat) (record : Option OtelLogRecordView) :
    Reply × State :=
  match s.logger logger with
  | none => (.undefined, s)
  | some logger => s.emits logger (otelLoggerEmit severityName (apiLogger logger) record)

/-- `otel_logger_emit_with_context`. -/
def State.emitWithContext (s : State) (logger : Option Nat) (record : Option OtelLogRecordView)
    (context : HandleArg SpanContextData) : Reply × State :=
  match s.logger logger with
  | none => (.undefined, s)
  | some logger =>
    s.emits logger (otelLoggerEmitWithContext severityName (apiLogger logger) record context)

/-- The contexts of a thread; one whose stack is gone has none. -/
def contextsOf (process : Process) (thread : Nat) : ContextStack :=
  match (process.touch thread).slots thread with
  | .live stack => stack
  | _ => ⟨0, 1, []⟩

/-- The call gets to `current_data`. -/
def asksCurrent (logger : HandleArg OtelLogger) (record : Option OtelLogRecordView) : Bool :=
  match logger, record with
  | .live .backed, some view =>
    recordViewSize ≤ view.structSize.toNat && view.presentFields &&& fieldTraceContext = 0
  | _, _ => false

/-- `otel_logger_emit_with_current_context`. -/
def State.emitWithCurrentContext (s : State) (thread : Nat) (logger : Option Nat)
    (record : Option OtelLogRecordView) : Reply × State :=
  match s.logger logger with
  | none => (.undefined, s)
  | some logger =>
    let call := otelLoggerEmitWithCurrentContext severityName (apiLogger logger) record
      (contextsOf s.process thread)
    let process := if asksCurrent (apiLogger logger) record then (currentOn s.process thread).2
      else s.process
    { s with process := process }.emits logger call

end Emit

section Enabled

variable (eventEnabled : SdkLogger → Severity → Bool)

/-- `logger_enabled` of the SDK's vtable. -/
def loggerEnabled (logger : SdkLogger) (severity : UInt32) : Bool :=
  match severityFromU32 severity with
  | none => false
  | some severity => eventEnabled logger severity

/-- `otel_logger_enabled`. -/
def otelLoggerEnabled (logger : HandleArg (Option SdkLogger)) (severity : UInt32) : Reply :=
  match checkedRef logger with
  | .error e => .enabled false (some e.message)
  | .ok logger =>
    if severity = 0 ∨ ¬logSeverityIsValid severity then
      .enabled false (some "otel_logger_enabled requires a severity in 1..=24")
    else match logger with
      | none => .enabled false none
      | some logger => .enabled (loggerEnabled eventEnabled logger severity) none

end Enabled

/-- `provider_free` and `logger_free` take the box as what it is. -/
def HandleKind.frees : HandleKind → Box → Bool
  | .loggerProvider, .provider _ => true
  | .logger, .logger _ => true
  | _, _ => false

/-- `otel_logger_provider_destroy` and `otel_logger_destroy`. -/
def State.destroy (s : State) (kind : HandleKind) (handle : Option Nat) : Reply × State :=
  match s.arg kind handle, handle with
  | .live none, some h => (.done, { s with store := s.store.destroy h })
  | .live (some c), some h =>
    if (s.store.boxes c).any kind.frees then (.done, { s with store := s.store.destroy h })
    else (.undefined, s)
  | _, _ => (.done, s)

/-- A call on a thread; `install` is whatever puts a provider into the global slot or takes it
out. -/
inductive Call where
  | globalLoggerProvider
  | loggerProviderNew (provider : Nat)
  | install (provider : Option Nat)
  | getLogger (provider : Option Nat) (options : Option ScopeOptions)
  | emit (logger : Option Nat) (record : Option OtelLogRecordView)
  | emitWithContext (logger : Option Nat) (record : Option OtelLogRecordView)
      (context : HandleArg SpanContextData)
  | emitWithCurrentContext (logger : Option Nat) (record : Option OtelLogRecordView)
  | enabled (logger : Option Nat) (severity : UInt32)
  | attach (context : HandleArg ContextData) (scope : Option OtelContextScope)
  | detach (scope : Option OtelContextScope)
  | exit
  | destroy (kind : HandleKind) (handle : Option Nat)

/-- The end of a thread takes its contexts with it. -/
def exitThread (process : Process) (thread : Nat) : Process :=
  match process.slots thread with
  | .live _ => process.put thread .destroyed
  | _ => process

/-- What the libraries take from another package. -/
structure Elsewhere where
  severityName : Severity → Str
  eventEnabled : SdkLogger → Severity → Bool

def State.step (e : Elsewhere) (s : State) : Nat × Call → Reply × State
  | (_, .globalLoggerProvider) => s.globalLoggerProvider
  | (_, .loggerProviderNew provider) => s.loggerProviderNew provider
  | (_, .install provider) => (.done, { s with installed := provider })
  | (_, .getLogger provider options) => s.getLogger provider options
  | (_, .emit logger record) => s.emit e.severityName logger record
  | (_, .emitWithContext logger record context) =>
    s.emitWithContext e.severityName logger record context
  | (thread, .emitWithCurrentContext logger record) =>
    s.emitWithCurrentContext e.severityName thread logger record
  | (_, .enabled logger severity) =>
    match s.logger logger with
    | none => (.undefined, s)
    | some logger => (otelLoggerEnabled e.eventEnabled logger severity, s)
  | (thread, .attach context scope) =>
    let (reply, process) := attachOn s.process thread context scope
    (.scope reply, { s with process := process })
  | (thread, .detach scope) =>
    let (reply, process) := detachOn s.process thread scope
    (.scope reply, { s with process := process })
  | (thread, .exit) => (.done, { s with process := exitThread s.process thread })
  | (_, .destroy kind handle) => s.destroy kind handle

end OtelC.Logs.Loggers
