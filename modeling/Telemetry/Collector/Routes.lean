import Telemetry.Collector.Exposition
import Telemetry.Http.Message

/-! # The collector's pages

The metrics as text, and a page that tells that the collector is there.
-/

namespace Telemetry.Collector

/-- A page of the collector. -/
inductive Page where
  | metrics
  | health
deriving DecidableEq

/-- The pages by path. -/
def pages : List (String × Page) := [("/metrics", .metrics), ("/health", .health)]

/-- Answers a request from the metrics as they stand. -/
def respond (m : Metrics) (request : Http.Request) : Http.Response :=
  match request.route pages with
  | .error refusal => refusal
  | .ok page =>
    let response := match page with
      | .metrics => Http.Response.text 200 m.exposition
      | .health => .json "\x7b\"status\":\"ok\"\x7d"
    response.sentTo request

end Telemetry.Collector
