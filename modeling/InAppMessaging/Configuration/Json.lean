import InAppMessaging.Configuration
import InAppMessaging.Session.Json

/-!
# Configurations as JSON

A configuration is written section by section, with what follows from it at the end.
-/

namespace InAppMessaging

open Json

/-- The members of a configuration, for a home directory. -/
def Configuration.members (c : Configuration) (home : Option String) : List (String × Value) :=
  let count (n : Nat) : Value := .integer n
  [("eligibility", .object
      [("broadcast_ttl_minutes", count c.eligibility.broadcastMinutes),
       ("anonymous_ttl_minutes", count c.eligibility.anonymousMinutes)]),
   ("polling", .object [("default_interval_ms", count c.polling.interval)]),
   ("sse", .object
      [("read_timeout_secs", count c.realtime.readTimeoutSecs),
       ("default_heartbeat_timeout_ms", count c.realtime.heartbeatTimeout),
       ("heartbeat_buffer_ms", count c.realtime.heartbeatBuffer),
       ("max_retry_count", count c.realtime.maxRetries),
       ("retry_delay_ms", count c.realtime.retryDelay),
       ("prod_endpoint", .text c.realtime.prodEndpoint),
       ("dev_endpoint", .text c.realtime.devEndpoint),
       ("local_endpoint", .text c.realtime.localEndpoint)]),
   ("client", .object
      [("platform", .text c.client.platform), ("version", .text c.client.version)]),
   ("tracing", .object
      [("level", .text c.tracing.level), ("log_file_name", .text c.tracing.logFileName)]),
   ("paths", .object
      [("log_directory", .text c.paths.logDirectory),
       ("data_directory", .text c.paths.dataDirectory)]),
   ("behavior", .object
      [("enable_tracing", .bool c.behavior.tracing),
       ("enable_file_logging", .bool c.behavior.fileLogging)]),
   ("derived", .object
      [("broadcast_ttl_secs", count (c.eligibility.lifetimeSecs .broadcast)),
       ("anonymous_ttl_secs", count (c.eligibility.lifetimeSecs .anonymous)),
       ("read_timeout_secs", count c.realtime.readTimeoutSecs),
       ("retry_delay_ms", count c.realtime.retryDelay),
       ("endpoints", textArray ([.prod, .dev, .localhost].map c.realtime.endpoint)),
       ("log_directory", .text (expandHome home c.paths.logDirectory)),
       ("data_directory", .text (expandHome home c.paths.dataDirectory))])]

end InAppMessaging
