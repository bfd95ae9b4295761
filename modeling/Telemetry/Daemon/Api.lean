import Telemetry.Http.Form
import Telemetry.Http.Message
import Telemetry.Model.Wire
import Telemetry.Service.Cycle

/-! # The daemon's pages

Three pages: that the daemon is there, the current values, and the history over
a range of time.  The last two may take a while, within the limit of a request;
what fails is answered with the text of the failure.
-/

namespace Telemetry.Api

/-- The version that the daemon shows. -/
def version : String := "0.3.0"

/-- A page of the daemon. -/
inductive Page where
  | health
  | stats
  | history
deriving DecidableEq

/-- The pages by path. -/
def pages : List (String × Page) :=
  [("/health", .health), ("/api/v1/stats", .stats), ("/api/v1/stats/history", .history)]

/-- What a request that takes a while is working at. -/
inductive Work where
  /-- The current values: not yet asked for, or a shared snapshot by its number. -/
  | stats (joined : Option Nat)
  | history (range : Delta) (stage : Survey)

/-- What becomes of a request at once: a response, or work. -/
inductive Reception where
  | answered (r : Http.Response)
  | working (work : Work)

/-- That the daemon is there, for so many seconds. -/
def health (uptime : Nat) : Http.Response :=
  .json (Json.record [("status", .text "ok"), ("version", .text version),
    ("uptime_seconds", .nat uptime)]).write

/-- The response to a failure. -/
def failure (e : Error) : Http.Response := .text e.httpStatus e.display

/-- Receives a request for a history: its query names the range in seconds. -/
def receiveHistory (request : Http.Request) : Reception :=
  match Http.Form.int64Field "range_secs" (request.query.getD "") with
  | .error flaw =>
    .answered (.text 400
      ("Failed to deserialize query string: " ++ flaw.message "range_secs"))
  | .ok seconds =>
    match Delta.ofSeconds? seconds with
    | some range => .working (.history range .fresh)
    | none =>
      .answered (.text 400
        ("range_secs " ++ String.ofList (Digits.ofInt seconds) ++ " is out of bounds"))

/-- Receives a request after so many seconds. -/
def receive (uptime : Nat) (request : Http.Request) : Reception :=
  match request.route pages with
  | .error refusal => .answered refusal
  | .ok .health => .answered (health uptime)
  | .ok .stats => .working (.stats none)
  | .ok .history => receiveHistory request

/-- The response that the work of a request leads to. -/
def respond {α : Type} (encode : α → String) : Result α → Http.Response
  | .ok v => .json (encode v)
  | .error e => failure e

/-- The response to what a history cycle yields. -/
def respondYield : CycleYield → Http.Response
  | .report r => .json r.encode
  | .snapshot s => .json s.encode
  | .stored count => .json (Json.nat count).write

/-- The work on a history after this much of its cycle. -/
def historyProgress (range : Delta) : Progress Survey CycleYield → Progress Work Http.Response
  | .pending stage => .pending (.history range stage)
  | .done (.value y) => .done (.value (respondYield y))
  | .done (.failure e) => .done (.value (failure e))
  | .done (.panic message) => .done (.panic message)

end Api

namespace World

/-- Waits for a shared snapshot. -/
def joinSnapshot (w : World) (number : Nat) : Progress Api.Work Http.Response :=
  if w.shutdown then .done (.value (Api.failure .cancelled))
  else match w.snapshots.outcome? number with
    | none => .pending (.stats (some number))
    | some outcome => .done (.value (Api.respond Snapshot.encode outcome))

/-- Goes on with the work of a request, which is cancelled on shutdown. -/
def advanceWork (w : World) : Api.Work → World × Progress Api.Work Http.Response
  | .stats none =>
    match w.snapshots.get w.now .fresh with
    | (_, .atOnce s) => (w, .done (.value (.json s.encode)))
    | (shared, .call number) =>
      let w := { w with snapshots := shared }
      (w, w.joinSnapshot number)
  | .stats (some number) => (w, w.joinSnapshot number)
  | .history range stage =>
    let (w, progress) := w.advanceCycle w.shutdown (.history range) stage
    (w, Api.historyProgress range progress)

end World

end Telemetry
