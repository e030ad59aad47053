import OtelC.Abi
import OtelC.Lib.Simulation
import Std.Data.HashMap.Lemmas

/-!
# The OTLP exporter builders

The SDK has three builders of OTLP exporters, one for each signal, which differ in their texts and
in the temporality of metrics.  A builder collects its settings call by call; building an exporter
checks them against the features that were compiled in and hands them to the builder of
opentelemetry-otlp.  The headers often carry credentials.
-/

namespace OtelC.Otlp

open Simulation

/-! ### Texts -/

inductive Signal where
  | trace
  | log
  | metric
  deriving DecidableEq

/-- The texts in which the builders differ. -/
structure Texts where
  emptyKey : String
  duplicateKey : String
  transport : String
  compression : String
  httpUnavailable : String
  grpcUnavailable : String
  httpFailed : String
  grpcFailed : String

def Signal.texts : Signal → Texts
  | .trace => {
      emptyKey := "OTLP header key must not be empty"
      duplicateKey := "OTLP header key already exists: "
      transport := "unknown OTLP trace transport value"
      compression := "unknown OTLP trace compression value"
      httpUnavailable :=
        "OTLP HTTP/protobuf Traces transport is unavailable: rebuild with `otlp-http`"
      grpcUnavailable := "OTLP gRPC Traces transport is unavailable: rebuild with `otlp-grpc`"
      httpFailed := "failed to build OTLP HTTP trace exporter: "
      grpcFailed := "failed to build OTLP gRPC trace exporter: " }
  | .log => {
      emptyKey := "OTLP header key must not be empty"
      duplicateKey := "OTLP header key already exists: "
      transport := "unknown OTLP log transport value"
      compression := "unknown OTLP log compression value"
      httpUnavailable :=
        "OTLP HTTP/protobuf Logs transport is unavailable: rebuild with `otlp-http`"
      grpcUnavailable := "OTLP gRPC Logs transport is unavailable: rebuild with `otlp-grpc`"
      httpFailed := "failed to build OTLP HTTP log exporter: "
      grpcFailed := "failed to build OTLP gRPC log exporter: " }
  | .metric => {
      emptyKey := "OTLP metric header key must not be empty"
      duplicateKey := "OTLP metric header key already exists: "
      transport := "unknown OTLP metric transport value"
      compression := "unknown OTLP metric compression value"
      httpUnavailable :=
        "OTLP HTTP/protobuf Metrics transport is unavailable: rebuild with `otlp-http`"
      grpcUnavailable := "OTLP gRPC Metrics transport is unavailable: rebuild with `otlp-grpc`"
      httpFailed := "failed to build OTLP HTTP metric exporter: "
      grpcFailed := "failed to build OTLP gRPC metric exporter: " }

/-- `format!` of a text and a key behind it. -/
def withKey (text : String) (key : Str) : String := text ++ String.ofList key

/-! ### Settings -/

inductive Transport where
  | httpProtobuf
  | grpc
  deriving DecidableEq

inductive Compression where
  | none
  | gzip
  | zstd
  deriving DecidableEq

/-- `OtlpExporterConfig` of traces, and `Config` of logs and of metrics; only the last has a
temporality. -/
structure Config where
  endpoint : Option Str
  headers : List (Str × Str)
  timeoutMillis : Option UInt64
  temporality : UInt32
  transport : Transport
  compression : Compression

def Config.default : Config := ⟨none, [], none, 0, .httpProtobuf, .none⟩

/-- `to_ascii_lowercase`. -/
def toAsciiLowercase (s : Str) : Str := s.map Char.toLower

/-- `eq_ignore_ascii_case`. -/
def eqIgnoreAsciiCase (a b : Str) : Bool := toAsciiLowercase a = toAsciiLowercase b

section Setters

variable (signal : Signal) (builder : HandleArg Config)

/-- `$_builder_set_endpoint`. -/
def setEndpoint (endpoint : OtelStringView) : Except Fail Config := do
  let config ← checkedRef builder
  let endpoint ← asStr endpoint
  .ok { config with endpoint := some endpoint }

/-- `$_builder_add_header`. -/
def addHeader (key value : OtelStringView) : Except Fail Config := do
  let config ← checkedRef builder
  let key ← asStr key
  if key.isEmpty then fail .invalidArgument signal.texts.emptyKey
  else if config.headers.any fun header => eqIgnoreAsciiCase header.1 key then
    fail .invalidArgument (withKey signal.texts.duplicateKey key)
  else do
    let value ← asStr value
    .ok { config with headers := config.headers ++ [(key, value)] }

/-- `$_builder_set_timeout_millis`. -/
def setTimeoutMillis (timeoutMillis : UInt64) : Except Fail Config := do
  let config ← checkedRef builder
  .ok { config with timeoutMillis := if timeoutMillis ≠ 0 then some timeoutMillis else none }

/-- `$_builder_set_transport`. -/
def setTransport (transport : UInt32) : Except Fail Config := do
  let config ← checkedRef builder
  match transport.toNat with
  | 0 => .ok { config with transport := .httpProtobuf }
  | 1 => .ok { config with transport := .grpc }
  | _ => fail .invalidArgument signal.texts.transport

/-- `$_builder_set_compression`. -/
def setCompression (compression : UInt32) : Except Fail Config := do
  let config ← checkedRef builder
  match compression.toNat with
  | 0 => .ok { config with compression := .none }
  | 1 => .ok { config with compression := .gzip }
  | 2 => .ok { config with compression := .zstd }
  | _ => fail .invalidArgument signal.texts.compression

/-- `otel_otlp_metric_exporter_builder_set_temporality`. -/
def setTemporality (temporality : UInt32) : Except Fail Config := do
  let config ← checkedRef builder
  if 3 < temporality then fail .invalidArgument "unknown metric temporality value"
  else .ok { config with temporality := temporality }

end Setters

/-! ### Building -/

/-- The cargo features of the SDK. -/
structure Features where
  otlpHttp : Bool
  otlpGrpc : Bool
  otlpHttpGzip : Bool
  otlpHttpZstd : Bool
  otlpGrpcGzip : Bool
  otlpGrpcZstd : Bool

inductive OtlpCompression where
  | gzip
  | zstd
  deriving DecidableEq

/-- `configured_compression`. -/
def configuredCompression : Compression → Option OtlpCompression
  | .none => none
  | .gzip => some .gzip
  | .zstd => some .zstd

/-- `configured_temporality`; the last branch is `unreachable!`. -/
def configuredTemporality (preference : UInt32) : Except Fail (Option Temporality) :=
  match preference.toNat with
  | 0 => .ok none
  | 1 => .ok (some .cumulative)
  | 2 => .ok (some .delta)
  | 3 => .ok (some .lowMemory)
  | _ => .error panicked

/-- What a builder of opentelemetry-otlp is told. -/
structure Builder (μ : Type) where
  endpoint : Option Str
  timeoutMillis : Option UInt64
  headers : Option μ
  compression : Option OtlpCompression
  temporality : Option Temporality

/-- What the code uses of tonic: `MetadataKey::from_bytes`, which gives the key as it is sent,
`MetadataValue::try_from`, and `new`, `insert`, `get` and `is_empty` of `MetadataMap`. -/
structure Tonic (ν μ : Type) where
  keyFromBytes : Str → Option Str
  valueTryFrom : Str → Option ν
  new : μ
  insert : μ → Str → ν → μ
  get : μ → Str → Option ν
  isEmpty : μ → Bool

/-- The hash is fixed here: the tables of headers do not depend on which one is in scope. -/
instance : Hashable Str := @instHashableList Char instHashableChar

section Build

variable {ν μ : Type}

/-- The exporter that was asked for, by its transport. -/
inductive Handed (μ : Type) where
  | http (builder : Builder (Std.HashMap Str Str))
  | grpc (builder : Builder μ)

variable (signal : Signal) (features : Features) (tonic : Tonic ν μ)

/-- `validate_transport_available`. -/
def validateTransportAvailable (transport : Transport) : Except Fail Unit :=
  match transport with
  | .httpProtobuf =>
    if features.otlpHttp then .ok () else fail .invalidConfig signal.texts.httpUnavailable
  | .grpc => if features.otlpGrpc then .ok () else fail .invalidConfig signal.texts.grpcUnavailable

/-- `validate_compression_available`. -/
def validateCompressionAvailable (transport : Transport) (compression : Compression) :
    Except Fail Unit :=
  let require (enabled : Bool) (message feature : String) : Except Fail Unit :=
    if enabled then .ok () else fail .invalidConfig (message ++ ": rebuild with `" ++ feature ++ "`")
  match transport, compression with
  | .httpProtobuf, .gzip =>
    require features.otlpHttpGzip "OTLP HTTP/protobuf gzip compression is unavailable"
      "otlp-http-gzip"
  | .httpProtobuf, .zstd =>
    require features.otlpHttpZstd "OTLP HTTP/protobuf zstd compression is unavailable"
      "otlp-http-zstd"
  | .grpc, .gzip =>
    require features.otlpGrpcGzip "OTLP gRPC gzip compression is unavailable" "otlp-grpc-gzip"
  | .grpc, .zstd =>
    require features.otlpGrpcZstd "OTLP gRPC zstd compression is unavailable" "otlp-grpc-zstd"
  | _, .none => .ok ()

/-- The temporality that is set on a builder; traces and logs have none. -/
def temporalityOf (config : Config) : Except Fail (Option Temporality) :=
  if signal = .metric then configuredTemporality config.temporality else .ok none

/-- `build_http_exporter`, up to the builder of opentelemetry-otlp. -/
def buildHttpExporter (config : Config) : Except Fail (Handed μ) := do
  let headers := if config.headers.isEmpty then none else some (Std.HashMap.ofList config.headers)
  let temporality ← temporalityOf signal config
  .ok (.http {
    endpoint := config.endpoint
    timeoutMillis := config.timeoutMillis
    headers := headers
    compression := configuredCompression config.compression
    temporality := temporality })

/-- One header in `build_grpc_metadata`. -/
def insertMetadata (metadata : μ) (header : Str × Str) : Except Fail μ :=
  if ['-', 'b', 'i', 'n'].isSuffixOf (toAsciiLowercase header.1) then
    fail .invalidArgument (withKey "binary gRPC metadata is unsupported for key: " header.1)
  else match tonic.keyFromBytes header.1 with
    | none => fail .invalidArgument (withKey "invalid gRPC metadata key: " header.1)
    | some key =>
      match tonic.valueTryFrom header.2 with
      | none => fail .invalidArgument (withKey "invalid gRPC metadata value for key: " header.1)
      | some value => .ok (tonic.insert metadata key value)

/-- `build_grpc_metadata`. -/
def buildGrpcMetadata (headers : List (Str × Str)) : Except Fail μ :=
  headers.foldlM (insertMetadata tonic) tonic.new

/-- `build_grpc_exporter`, up to the builder of opentelemetry-otlp; tokio may not give a runtime. -/
def buildGrpcExporter (runtimeError : Option String) (config : Config) :
    Except Fail (Handed μ) := do
  let metadata ← buildGrpcMetadata tonic config.headers
  match runtimeError with
  | some err => fail .internalError ("failed to create OTLP gRPC runtime: " ++ err)
  | none => do
    let headers := if tonic.isEmpty metadata then none else some metadata
    let temporality ← temporalityOf signal config
    .ok (.grpc {
      endpoint := config.endpoint
      timeoutMillis := config.timeoutMillis
      headers := headers
      compression := configuredCompression config.compression
      temporality := temporality })

/-- `build_exporter`, up to the builders of opentelemetry-otlp. -/
def buildExporter (runtimeError : Option String) (config : Config) : Except Fail (Handed μ) := do
  validateTransportAvailable signal features config.transport
  validateCompressionAvailable features config.transport config.compression
  match config.transport with
  | .httpProtobuf => buildHttpExporter signal config
  | .grpc => buildGrpcExporter signal tonic runtimeError config

/-- What the builder of opentelemetry-otlp makes of it, which may be an error. -/
def finish (exporterError : Option String) (handed : Handed μ) : Except Fail (Handed μ) :=
  match exporterError, handed with
  | none, _ => .ok handed
  | some err, .http _ => fail .invalidConfig (signal.texts.httpFailed ++ err)
  | some err, .grpc _ => fail .invalidConfig (signal.texts.grpcFailed ++ err)

/-- `$_builder_build`. -/
def build (runtimeError exporterError : Option String) (builder : HandleArg Config)
    (outIsNull : Bool) : OutCall (Handed μ) :=
  withOut outIsNull "out pointer must not be NULL" do
    let config ← checkedRef builder
    let handed ← buildExporter signal features tonic runtimeError config
    finish signal exporterError handed

end Build

/-! ### Runs -/

/-- A call on a live builder; `build` comes with what tokio and opentelemetry-otlp answer. -/
inductive Call (signal : Signal) where
  | setEndpoint (endpoint : OtelStringView)
  | addHeader (key value : OtelStringView)
  | setTimeoutMillis (timeoutMillis : UInt64)
  | setTransport (transport : UInt32)
  | setCompression (compression : UInt32)
  | setTemporality (temporality : UInt32) (hmetric : signal = .metric)
  | build (runtimeError exporterError : Option String) (outIsNull : Bool)

section Runs

variable {ν μ : Type} {signal : Signal}

inductive Reply (μ : Type) where
  | status (result : Except Fail Unit)
  | exporter (call : OutCall (Handed μ))

/-- A setter that fails leaves the configuration as it was. -/
def set (config : Config) (result : Except Fail Config) : Reply μ × Config :=
  match result with
  | .ok config => (.status (.ok ()), config)
  | .error e => (.status (.error e), config)

variable (features : Features) (tonic : Tonic ν μ)

def step (config : Config) : Call signal → Reply μ × Config
  | .setEndpoint endpoint => set config (setEndpoint (.live config) endpoint)
  | .addHeader key value => set config (addHeader signal (.live config) key value)
  | .setTimeoutMillis timeoutMillis => set config (setTimeoutMillis (.live config) timeoutMillis)
  | .setTransport transport => set config (setTransport signal (.live config) transport)
  | .setCompression compression => set config (setCompression signal (.live config) compression)
  | .setTemporality temporality _ => set config (setTemporality (.live config) temporality)
  | .build runtimeError exporterError outIsNull =>
    (.exporter (build signal features tonic runtimeError exporterError (.live config) outIsNull),
      config)

/-- The header that a call added, when it was accepted. -/
def added : Call signal × Reply μ → Option (Str × Str)
  | (.addHeader key value, .status (.ok ())) =>
    match asStr key, asStr value with
    | .ok key, .ok value => some (key, value)
    | _, _ => none
  | _ => none

end Runs

end OtelC.Otlp
