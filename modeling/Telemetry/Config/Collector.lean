import Telemetry.Config.Section
import Telemetry.Retry.Policy

/-! # The configuration of the collector

Which hosts to collect from, how often and how persistently, how long a request
to a host may take, and where the metrics are served.
-/

namespace Telemetry

/-- The configuration of the collector. -/
@[ext] structure CollectorConfig where
  hosts : List String
  intervalMs : UInt64
  timeoutSecs : UInt64
  attempts : UInt32
  baseMs : UInt64
  maxMs : UInt64
  requestTimeoutSecs : UInt64
  cacheRetentionMs : Option UInt64
  listen : String
  logLevel : String
deriving DecidableEq

namespace CollectorConfig

open Config

/-- The configuration without a file. -/
def standard : CollectorConfig where
  hosts := ["http://127.0.0.1:7870"]
  intervalMs := 1000
  timeoutSecs := 10
  attempts := 2
  baseMs := 100
  maxMs := 2000
  requestTimeoutSecs := 5
  cacheRetentionMs := none
  listen := "127.0.0.1:9187"
  logLevel := "info"

/-- The part of a configuration that says how to collect. -/
def collectSection (c : CollectorConfig) : List (Option Toml) → Option CollectorConfig
  | [interval, timeout, attempts, base, max] => do
    return { c with
      intervalMs := ← fieldOr standard.intervalMs asUInt64 interval
      timeoutSecs := ← fieldOr standard.timeoutSecs asUInt64 timeout
      attempts := ← fieldOr standard.attempts asUInt32 attempts
      baseMs := ← fieldOr standard.baseMs asUInt64 base
      maxMs := ← fieldOr standard.maxMs asUInt64 max }
  | _ => none

/-- The part of a configuration that says how to ask a host. -/
def providerSection (c : CollectorConfig) : List (Option Toml) → Option CollectorConfig
  | [timeout, retention] => do
    return { c with
      requestTimeoutSecs := ← fieldOr standard.requestTimeoutSecs asUInt64 timeout
      cacheRetentionMs := ← fieldOr none (fun t => (asUInt64 t).map some) retention }
  | _ => none

/-- The configuration that a document holds. -/
def ofToml? : Toml → Option CollectorConfig
  | .table entries => do
    let part (name : String) := (entries.find? fun e => e.1 = name).map Prod.snd
    let hosts ← fieldOr standard.hosts asTexts (part "hosts")
    let c := { standard with hosts := hosts }
    let c ← sectionOr c ["interval_ms", "timeout_secs", "attempts", "base_ms", "max_ms"]
      c.collectSection (part "collect")
    let c ← sectionOr c ["request_timeout_secs", "cache_retention_ms"]
      c.providerSection (part "provider")
    let listen ← sectionOr standard.listen ["listen"] (fun
        | [a] => fieldOr standard.listen asText a
        | _ => none) (part "metrics")
    let level ← sectionOr standard.logLevel ["level"] (fun
        | [a] => fieldOr standard.logLevel asText a
        | _ => none) (part "logging")
    return { c with listen := listen, logLevel := level }
  | _ => none

/-- The first flaw of a configuration. -/
def validate (c : CollectorConfig) : Except Flaw Unit := do
  if c.hosts.isEmpty then .error .noHosts
  match c.hosts.find? Text.allBlank with
  | some host => .error (.emptyHost host)
  | none => .ok ()
  firstZero [
    ("collect.interval_ms", c.intervalMs.toNat),
    ("collect.timeout_secs", c.timeoutSecs.toNat),
    ("collect.attempts", c.attempts.toNat),
    ("provider.request_timeout_secs", c.requestTimeoutSecs.toNat)]
  if c.cacheRetentionMs = some 0 then .error .zeroCacheRetention
  if c.maxMs < c.baseMs then .error .baseAboveMax

/-- The valid configuration that a text holds. -/
def parse (text : String) : Except LoadError CollectorConfig :=
  match (Toml.read text).bind ofToml? with
  | none => .error .unfit
  | some c =>
    match c.validate with
    | .error flaw => .error (.flawed flaw)
    | .ok () => .ok c

/-- The configuration that a file holds; without a file the standard one. -/
def load : File → Except LoadError CollectorConfig
  | .missing => .ok standard
  | .unreadable => .error .unreadable
  | .text content => parse content

def interval (c : CollectorConfig) : Span := .ofMillis c.intervalMs.toNat

def timeout (c : CollectorConfig) : Span := .ofSeconds c.timeoutSecs.toNat

def requestTimeout (c : CollectorConfig) : Span := .ofSeconds c.requestTimeoutSecs.toNat

def cacheRetention (c : CollectorConfig) : Option Span :=
  c.cacheRetentionMs.map fun n => .ofMillis n.toNat

/-- The waits between attempts: the standard growth and jitter from the
configured base to the configured cap. -/
def backoff (c : CollectorConfig) : Backoff :=
  { Backoff.standard with baseMillis := c.baseMs.toNat, maxMillis := c.maxMs.toNat }

end CollectorConfig

end Telemetry
