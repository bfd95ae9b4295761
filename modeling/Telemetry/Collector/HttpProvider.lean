import Telemetry.Coalesce.Cache

/-! # Hosts asked over HTTP

A host is known by its base address; what is asked of it is a path behind that.
A request that finds no connection fails with its full address as context.
-/

namespace Telemetry

/-- A host to be asked. -/
structure HttpProvider where
  /-- The address, without slashes at the end. -/
  base : String
  requestTimeout : Span

namespace HttpProvider

/-- The provider for an address; a request needs some time. -/
def create (address : String) (requestTimeout : Span) : Result HttpProvider :=
  if requestTimeout.isZero then
    .error (.construction "provider request timeout must be greater than 0")
  else
    .ok ⟨String.ofList (address.toList.reverse.dropWhile (· = '/')).reverse, requestTimeout⟩

/-- What is asked of a host. -/
inductive Question where
  | health
  | stats
deriving DecidableEq

/-- The path of a question. -/
def Question.path : Question → String
  | health => "/health"
  | stats => "/api/v1/stats"

/-- What becomes of a question when the connection fails for a reason, or when
its token is cancelled beforehand. -/
def unreachable (p : HttpProvider) (question : Question) (cancelled : Bool) (reason : String) :
    Error :=
  if cancelled then .cancelled
  else .dependency ("GET " ++ p.base ++ question.path) reason

/-- The provider for an address, once its host has answered a health check; here
the connection fails. -/
def connect (address : String) (requestTimeout : Span) (reason : String) : Result HttpProvider := do
  let p ← create address requestTimeout
  throw (p.unreachable .health false reason)

/-- The provider with a cache in front, if a retention is given: the settings of
the cache, whose calls are limited like requests. -/
def cacheSettings (p : HttpProvider) (retention : Option Span) : Result (Option CacheSettings) :=
  retention.mapM fun r => CacheSettings.create r p.requestTimeout

end HttpProvider

end Telemetry
