-- SUMMARY: The errors that parts of the relay pass to one another, and their texts.
import WebhookRelay.Event.Basic
import WebhookRelay.Subscription.Registration

/-!
# Errors

Three layers of errors, each wrapping the one below. Failures of outside systems
(database, broker, HTTP client) carry the text those systems give.
-/

namespace WebhookRelay

/-- What can go wrong with stored subscriptions, requests, events and settings. -/
inductive RelayError where
  | storage (text : String)
  | notFound (text : String)
  | validation (violation : Violation)
  | invalidEvent (error : EventError)
  | serialization (text : String)
  | config (text : String)

/-- The text of the error. -/
def RelayError.message : RelayError → String
  | .storage text => "Storage error: " ++ text
  | .notFound text => "Not found: " ++ text
  | .validation violation => "Validation error: " ++ violation.message
  | .invalidEvent error => "Invalid event: " ++ error.message
  | .serialization text => "Serialization error: " ++ text
  | .config text => "Configuration error: " ++ text

/-- What can go wrong between the registry and the webhooks. -/
inductive DispatchError where
  | http (text : String)
  | repository (error : RelayError)

/-- The text of the error. -/
def DispatchError.message : DispatchError → String
  | .http text => "HTTP error: " ++ text
  | .repository error => "Repository error: " ++ error.message

/-- What can go wrong in the systems around the relay. -/
inductive InfraError where
  | database (text : String)
  | migration (text : String)
  | messaging (text : String)
  | configuration (text : String)
  deriving DecidableEq, Repr

/-- The text of the error. -/
def InfraError.message : InfraError → String
  | .database text => "Database error: " ++ text
  | .migration text => "Migration error: " ++ text
  | .messaging text => "Messaging error: " ++ text
  | .configuration text => "Configuration error: " ++ text

/-- A failure of a surrounding system as the store reports it. -/
def InfraError.toRelayError (e : InfraError) : RelayError :=
  .storage e.message

end WebhookRelay
