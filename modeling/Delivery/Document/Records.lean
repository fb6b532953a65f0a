import Delivery.Breaker.Circuit
import Delivery.DeadLetter.Filter
import Delivery.Document.Value
import Delivery.Settings.Courier
import Delivery.Timestamp.Text

/-!
# The records of documents

The readers of settings, messages, dead letters and filters. Fields that have a default may be left
out.
-/

namespace Delivery.Document

def count : Reader Nat := natural .count

def word : Reader Nat := natural .word

def kind : Reader Kind := Kind.mk <$> text

def reason : Reader Reason := variant (Reason.all.map fun r => (r.text, r))

def timestamp : Reader Timestamp := do Timestamp.read? (← text)

def entryId : Reader EntryId := do
  match EntryId.read (← text) with
  | .ok id => return id
  | .error _ => failure

def lastOfEach {β : Type} (pairs : List (String × β)) : List (String × β) :=
  pairs.foldl (fun done p => done.filter (·.1 != p.1) ++ [p]) []

/-! ### Settings -/

def breakerFields : List (Field BreakerSettings) :=
  [.optionally "enabled" flag fun v s => { s with enabled := v },
   .optionally "failure_threshold" count fun v s => { s with failureThreshold := v },
   .optionally "open_duration_ms" word fun v s => { s with openDurationMs := v },
   .optionally "success_threshold" count fun v s => { s with successThreshold := v }]

def breakerSettings : Reader BreakerSettings := record "CircuitBreakerConfig" breakerFields {}

def registryFields : List (Field RegistrySettings) :=
  [.optionally "defaults" breakerSettings fun v s => { s with defaults := v },
   .optionally "overrides" (map text breakerSettings) fun v s =>
     { s with overrides := lastOfEach v }]

def registrySettings : Reader RegistrySettings := record "RegistryConfig" registryFields {}

def retryFields : List (Field RetrySettings) :=
  [.optionally "enabled" flag fun v s => { s with enabled := v },
   .optionally "max_retry_attempts" count fun v s => { s with maxRetryAttempts := v },
   .optionally "base_delay_ms" word fun v s => { s with baseDelayMs := v },
   .optionally "max_delay_ms" word fun v s => { s with maxDelayMs := v },
   .optionally "backoff_multiplier" double fun v s => { s with backoffMultiplier := v },
   .optionally "jitter_enabled" flag fun v s => { s with jitterEnabled := v },
   .optionally "jitter_factor" double fun v s => { s with jitterFactor := v },
   .optionally "retriable_kinds" (list kind) fun v s => { s with retriableKinds := v },
   .optionally "non_retriable_kinds" (list kind) fun v s => { s with nonRetriableKinds := v }]

def retrySettings : Reader RetrySettings := record "RetryOptions" retryFields {}

def backoffFields : List (Field BackoffOptions) :=
  [.optionally "base_delay_ms" word fun v s => { s with baseDelayMs := v },
   .optionally "max_delay_ms" (optional word) fun v s => { s with maxDelayMs := v },
   .optionally "multiplier" double fun v s => { s with multiplier := v },
   .optionally "jitter_enabled" flag fun v s => { s with jitterEnabled := v },
   .optionally "jitter_factor" double fun v s => { s with jitterFactor := v }]

def backoffOptions : Reader BackoffOptions := record "BackoffOptions" backoffFields {}

def databaseFields : List (Field DatabaseSettings) :=
  [.always "connection_string" text fun v s => { s with connectionString := v },
   .optionally "schema" text fun v s => { s with schema := v },
   .optionally "table" text fun v s => { s with table := v },
   .optionally "command_timeout_secs" word fun v s => { s with commandTimeoutSecs := v },
   .optionally "retention_days" word fun v s => { s with retentionDays := v },
   .optionally "purge_interval_secs" word fun v s => { s with purgeIntervalSecs := v },
   .optionally "max_connections" count fun v s => { s with maxConnections := v }]

def databaseSettings : Reader DatabaseSettings :=
  record "PostgresConfig" databaseFields { connectionString := "" }

def deadLetterSettings : Reader DeadLetterSettings :=
  choice
    [("Memory", pure .memory),
     ("Postgres", .database <$> held databaseSettings)]

def logFormat : Reader LogFormat := variant (LogFormat.all.map fun f => (f.name, f))

def logFields : List (Field LogSettings) :=
  [.optionally "level" (optional text) fun v s => { s with level := v },
   .optionally "format" logFormat fun v s => { s with format := v }]

def logSettings : Reader LogSettings := record "LoggingConfig" logFields {}

def courierFields : List (Field CourierSettings) :=
  [.optionally "logging" logSettings fun v s => { s with logging := v },
   .optionally "retry" retrySettings fun v s => { s with retry := v },
   .optionally "circuit_breaker" registrySettings fun v s => { s with breakers := v },
   .optionally "dead_letter" deadLetterSettings fun v s => { s with deadLetters := v }]

def courierSettings : Reader CourierSettings := record "Dispatch" courierFields {}

/-! ### Messages and dead letters -/

def payload : Reader (List UInt8) := list (Nat.toUInt8 <$> natural .byte)

def messageFields : List (Field Message) :=
  [.always "message_type" text fun v s => { s with messageType := v },
   .always "payload" payload fun v s => { s with payload := v },
   .optionally "correlation_id" (optional text) fun v s => { s with correlationId := v },
   .optionally "causation_id" (optional text) fun v s => { s with causationId := v },
   .optionally "source_queue" (optional text) fun v s => { s with sourceQueue := v },
   .optionally "attempts" count fun v s => { s with attempts := v }]

def message : Reader Message := record "Message" messageFields { messageType := "" }

def failureFields : List (Field FailureDetail) :=
  [.always "message" text fun v s => { s with message := v },
   .optionally "trace" (optional text) fun v s => { s with trace := v }]

def failureDetail : Reader FailureDetail := record "FailureDetail" failureFields { message := "" }

def entryFields : List (Field Entry) :=
  [.always "id" entryId fun v s => { s with id := v },
   .always "message_type" text fun v s => { s with messageType := v },
   .always "payload" payload fun v s => { s with payload := v },
   .always "reason" reason fun v s => { s with reason := v },
   .optionally "failure" (optional failureDetail) fun v s => { s with failure := v },
   .always "enqueued_at" timestamp fun v s => { s with enqueuedAt := v },
   .always "attempts" count fun v s => { s with attempts := v },
   .always "metadata" (map text text) fun v s => { s with metadata := .ofList v },
   .optionally "correlation_id" (optional text) fun v s => { s with correlationId := v },
   .optionally "causation_id" (optional text) fun v s => { s with causationId := v },
   .optionally "source_queue" (optional text) fun v s => { s with sourceQueue := v },
   .always "replayed" flag fun v s => { s with replayed := v },
   .optionally "replayed_at" (optional timestamp) fun v s => { s with replayedAt := v }]

def entryDraft : Entry :=
  .ofMessage ⟨0⟩ { messageType := "" } .unknown none [] Timestamp.databaseEpoch

def entry : Reader Entry := record "DeadLetterEntry" entryFields entryDraft

def filterFields : List (Field Filter) :=
  [.optionally "message_type" (optional text) fun v s => { s with messageType := v },
   .optionally "reason" (optional reason) fun v s => { s with reason := v },
   .optionally "from" (optional timestamp) fun v s => { s with enqueuedFrom := v },
   .optionally "to" (optional timestamp) fun v s => { s with enqueuedTo := v },
   .optionally "replayed" (optional flag) fun v s => { s with replayed := v },
   .optionally "source_queue" (optional text) fun v s => { s with sourceQueue := v },
   .optionally "correlation_id" (optional text) fun v s => { s with correlationId := v },
   .optionally "min_attempts" (optional count) fun v s => { s with minAttempts := v },
   .optionally "skip" word fun v s => { s with skip := v },
   .optionally "limit" (optional word) fun v s => { s with limit := v }]

def filter : Reader Filter := record "DeadLetterFilter" filterFields {}

/-! ### Circuits and strategies -/

def circuitState : Reader CircuitState := variant (CircuitState.all.map fun s => (s.name, s))

def statsFields : List (Field CircuitStats) :=
  [.always "state" circuitState fun v s => { s with state := v },
   .always "consecutive_failures" count fun v s => { s with consecutiveFailures := v },
   .always "consecutive_successes" count fun v s => { s with consecutiveSuccesses := v },
   .always "times_opened" word fun v s => { s with timesOpened := v },
   .always "rejected" word fun v s => { s with rejected := v }]

def circuitStats : Reader CircuitStats := record "CircuitBreakerStats" statsFields {}

def strategy : Reader Strategy := variant (Strategy.all.map fun s => (s.name, s))

end Delivery.Document
