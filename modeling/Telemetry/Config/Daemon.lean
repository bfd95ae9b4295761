import Telemetry.Config.Section
import Telemetry.Time.Span

/-! # The configuration of the daemon

Where the daemon listens and how long a request may take, how often it polls,
how long samples are kept, and how the snapshot cache works.
-/

namespace Telemetry

/-- The configuration of the daemon. -/
@[ext] structure DaemonConfig where
  listen : String
  requestTimeoutSecs : UInt64
  pollIntervalMs : UInt64
  retentionIntervalSecs : UInt64
  retentionWindowSecs : UInt64
  cacheRetentionMs : UInt64
  fetchTimeoutSecs : UInt64
  logLevel : String
deriving DecidableEq

namespace DaemonConfig

open Config

/-- The configuration without a file. -/
def standard : DaemonConfig where
  listen := "127.0.0.1:7870"
  requestTimeoutSecs := 10
  pollIntervalMs := 1000
  retentionIntervalSecs := 60
  retentionWindowSecs := 3600
  cacheRetentionMs := 1000
  fetchTimeoutSecs := 5
  logLevel := "info"

/-- The configuration that a document holds. -/
def ofToml? : Toml → Option DaemonConfig
  | .table entries => do
    let part (name : String) := (entries.find? fun e => e.1 = name).map Prod.snd
    let (listen, requestTimeout) ← sectionOr (standard.listen, standard.requestTimeoutSecs)
      ["listen", "request_timeout_secs"] (fun
        | [a, b] => do
          return (← fieldOr standard.listen asText a,
            ← fieldOr standard.requestTimeoutSecs asUInt64 b)
        | _ => none) (part "server")
    let pollInterval ← sectionOr standard.pollIntervalMs ["interval_ms"] (fun
        | [a] => fieldOr standard.pollIntervalMs asUInt64 a
        | _ => none) (part "polling")
    let (retentionInterval, window) ← sectionOr
      (standard.retentionIntervalSecs, standard.retentionWindowSecs)
      ["interval_secs", "window_secs"] (fun
        | [a, b] => do
          return (← fieldOr standard.retentionIntervalSecs asUInt64 a,
            ← fieldOr standard.retentionWindowSecs asUInt64 b)
        | _ => none) (part "retention")
    let (cacheRetention, fetchTimeout) ← sectionOr
      (standard.cacheRetentionMs, standard.fetchTimeoutSecs)
      ["retention_ms", "fetch_timeout_secs"] (fun
        | [a, b] => do
          return (← fieldOr standard.cacheRetentionMs asUInt64 a,
            ← fieldOr standard.fetchTimeoutSecs asUInt64 b)
        | _ => none) (part "cache")
    let level ← sectionOr standard.logLevel ["level"] (fun
        | [a] => fieldOr standard.logLevel asText a
        | _ => none) (part "logging")
    return ⟨listen, requestTimeout, pollInterval, retentionInterval, window, cacheRetention,
      fetchTimeout, level⟩
  | _ => none

/-- The first flaw of a configuration. -/
def validate (c : DaemonConfig) : Except Flaw Unit := do
  firstZero [
    ("server.request_timeout_secs", c.requestTimeoutSecs.toNat),
    ("polling.interval_ms", c.pollIntervalMs.toNat),
    ("retention.interval_secs", c.retentionIntervalSecs.toNat),
    ("retention.window_secs", c.retentionWindowSecs.toNat),
    ("cache.retention_ms", c.cacheRetentionMs.toNat),
    ("cache.fetch_timeout_secs", c.fetchTimeoutSecs.toNat)]
  if Text.allBlank c.listen then .error .emptyListen else .ok ()

/-- The valid configuration that a text holds. -/
def parse (text : String) : Except LoadError DaemonConfig :=
  match (Toml.read text).bind ofToml? with
  | none => .error .unfit
  | some c =>
    match c.validate with
    | .error flaw => .error (.flawed flaw)
    | .ok () => .ok c

/-- The configuration that a file holds; without a file the standard one. -/
def load : File → Except LoadError DaemonConfig
  | .missing => .ok standard
  | .unreadable => .error .unreadable
  | .text content => parse content

def requestTimeout (c : DaemonConfig) : Span := .ofSeconds c.requestTimeoutSecs.toNat

def pollInterval (c : DaemonConfig) : Span := .ofMillis c.pollIntervalMs.toNat

def retentionInterval (c : DaemonConfig) : Span := .ofSeconds c.retentionIntervalSecs.toNat

def retentionWindow (c : DaemonConfig) : Span := .ofSeconds c.retentionWindowSecs.toNat

def cacheRetention (c : DaemonConfig) : Span := .ofMillis c.cacheRetentionMs.toNat

def fetchTimeout (c : DaemonConfig) : Span := .ofSeconds c.fetchTimeoutSecs.toNat

end DaemonConfig

end Telemetry
