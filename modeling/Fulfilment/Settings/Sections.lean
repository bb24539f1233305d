import Fulfilment.Failure
import Fulfilment.Settings.Sources

/-!
# Settings

The settings of the program, in five sections. Each section is checked by itself; a setting that is
not given has its default.

## Main definitions

* `LoggingSettings`, `OrderSettings`, `WorkflowSettings`, `DatabaseSettings`,
  `NotificationSettings` - the sections, each with `load` and `document`
* `Settings` - all sections
* `LoggingSettings.checkLevel` - whether there is a log level of the given name
-/

namespace Fulfilment

open Settings (Key Sources)
open Schema (Checked optional)

/-- The settings of the log. -/
structure LoggingSettings where
  /-- The name of the least level that is logged. -/
  level : String := "INFO"
deriving DecidableEq, Repr, Inhabited

namespace LoggingSettings

/-- The key of the level. -/
def levelKey : Key := ⟨⟨"LOG_LEVEL", "level"⟩, true⟩

/-- The section from its sources. -/
def load (s : Sources) : Checked LoggingSettings :=
  let fs := s.gather [levelKey]
  LoggingSettings.mk <$> optional fs levelKey "INFO" Schema.text

/-- The section as a document. -/
def document (s : LoggingSettings) : Value := .object [("level", .text s.level)]

/-- The names of the log levels. -/
def levels : List String :=
  ["CRITICAL", "FATAL", "ERROR", "WARN", "WARNING", "INFO", "DEBUG", "NOTSET"]

/-- Whether there is a log level of the given name, in small or capital letters. -/
def checkLevel (s : LoggingSettings) : Except Failure Unit :=
  let name := Text.upper s.level
  if levels.contains name then .ok () else .error (.unknownLevel name)

end LoggingSettings

/-- The settings of order processing. -/
structure OrderSettings where
  /-- How many orders a batch takes. -/
  batchLimit : Nat := 10
  /-- The seconds between two orders of a batch. -/
  pause : Binary64 := .ofInt 1
  /-- The seconds between two batches. -/
  batchInterval : Binary64 := .ofInt 300
  /-- The seconds between two reports of the census. -/
  statsInterval : Binary64 := .ofInt 3600
  /-- How far the total of an order may be from that of its lines. -/
  totalTolerance : Binary64 := .ofScientific false 1 (-2)
  /-- How many times the ordered quantity should be in stock. -/
  lowStockFactor : Binary64 := .ofScientific false 15 (-1)
  /-- The reason of a cancellation for which none is given. -/
  defaultReason : String := "unspecified"
deriving DecidableEq, Repr, Inhabited

namespace OrderSettings

/-- The key of the batch limit. -/
def batchLimitKey : Key := ⟨⟨"ORDERS_BATCH_LIMIT", "batch_limit"⟩, true⟩

/-- The key of the pause. -/
def pauseKey : Key := ⟨⟨"ORDERS_INTER_ORDER_PAUSE_SECONDS", "inter_order_pause_seconds"⟩, true⟩

/-- The key of the batch interval. -/
def batchIntervalKey : Key := ⟨⟨"ORDERS_BATCH_INTERVAL_SECONDS", "batch_interval_seconds"⟩, true⟩

/-- The key of the census interval. -/
def statsIntervalKey : Key := ⟨⟨"ORDERS_STATS_INTERVAL_SECONDS", "stats_interval_seconds"⟩, false⟩

/-- The key of the tolerance. -/
def totalToleranceKey : Key := ⟨⟨"ORDERS_TOTAL_TOLERANCE", "total_tolerance"⟩, true⟩

/-- The key of the stock factor. -/
def lowStockFactorKey : Key := ⟨⟨"ORDERS_LOW_STOCK_FACTOR", "low_stock_factor"⟩, false⟩

/-- The key of the default reason. -/
def defaultReasonKey : Key :=
  ⟨⟨"ORDERS_DEFAULT_CANCELLATION_REASON", "default_cancellation_reason"⟩, false⟩

/-- The section from its sources. -/
def load (s : Sources) : Checked OrderSettings :=
  let d : OrderSettings := {}
  let fs := s.gather [batchLimitKey, pauseKey, batchIntervalKey, statsIntervalKey,
    totalToleranceKey, lowStockFactorKey, defaultReasonKey]
  (fun n => OrderSettings.mk (Int.toNat n))
    <$> optional fs batchLimitKey d.batchLimit (Schema.integerAbove 0)
    <*> optional fs pauseKey d.pause (Schema.numberAtLeast 0)
    <*> optional fs batchIntervalKey d.batchInterval (Schema.numberAbove 0)
    <*> optional fs statsIntervalKey d.statsInterval (Schema.numberAbove 0)
    <*> optional fs totalToleranceKey d.totalTolerance (Schema.numberAtLeast 0)
    <*> optional fs lowStockFactorKey d.lowStockFactor (Schema.numberAtLeast 1)
    <*> optional fs defaultReasonKey d.defaultReason Schema.text

/-- The section as a document. -/
def document (s : OrderSettings) : Value :=
  .object [("batch_limit", .int s.batchLimit), ("inter_order_pause_seconds", .real s.pause),
    ("batch_interval_seconds", .real s.batchInterval),
    ("stats_interval_seconds", .real s.statsInterval),
    ("total_tolerance", .real s.totalTolerance), ("low_stock_factor", .real s.lowStockFactor),
    ("default_cancellation_reason", .text s.defaultReason)]

end OrderSettings

/-- The settings of workflows. -/
structure WorkflowSettings where
  /-- The milliseconds of a delay for which none are given. -/
  defaultDelay : Int := 1000
  /-- How many nodes an execution may visit. -/
  maxVisits : Nat := 1000
  /-- The seconds that a called service has to answer. -/
  apiTimeout : Binary64 := .ofInt 30
deriving DecidableEq, Repr, Inhabited

namespace WorkflowSettings

/-- The key of the default delay. -/
def defaultDelayKey : Key := ⟨⟨"WORKFLOW_DEFAULT_DELAY_MS", "default_delay_ms"⟩, true⟩

/-- The key of the visit limit. -/
def maxVisitsKey : Key := ⟨⟨"WORKFLOW_MAX_NODE_VISITS", "max_node_visits"⟩, true⟩

/-- The key of the timeout. -/
def apiTimeoutKey : Key := ⟨⟨"WORKFLOW_API_TIMEOUT_SECONDS", "api_timeout_seconds"⟩, true⟩

/-- The section from its sources. -/
def load (s : Sources) : Checked WorkflowSettings :=
  let d : WorkflowSettings := {}
  let fs := s.gather [defaultDelayKey, maxVisitsKey, apiTimeoutKey]
  (fun delay visits => WorkflowSettings.mk delay (Int.toNat visits))
    <$> optional fs defaultDelayKey d.defaultDelay (Schema.integerAtLeast 0)
    <*> optional fs maxVisitsKey d.maxVisits (Schema.integerAbove 0)
    <*> optional fs apiTimeoutKey d.apiTimeout (Schema.numberAbove 0)

/-- The section as a document. -/
def document (s : WorkflowSettings) : Value :=
  .object [("default_delay_ms", .int s.defaultDelay), ("max_node_visits", .int s.maxVisits),
    ("api_timeout_seconds", .real s.apiTimeout)]

end WorkflowSettings

/-- The settings of the database. -/
structure DatabaseSettings where
  /-- Where the database is. -/
  url : String := "sqlite+aiosqlite:///./orders.db"
  /-- Whether statements are shown. -/
  echo : Bool := false
deriving DecidableEq, Repr, Inhabited

namespace DatabaseSettings

/-- The key of the place. -/
def urlKey : Key := ⟨⟨"DB_DATABASE_URL", "database_url"⟩, true⟩

/-- The key of the display of statements. -/
def echoKey : Key := ⟨⟨"DB_ECHO_SQL", "echo_sql"⟩, false⟩

/-- The section from its sources. -/
def load (s : Sources) : Checked DatabaseSettings :=
  let d : DatabaseSettings := {}
  let fs := s.gather [urlKey, echoKey]
  DatabaseSettings.mk <$> optional fs urlKey d.url Schema.text
    <*> optional fs echoKey d.echo Schema.boolean

/-- The section as a document. -/
def document (s : DatabaseSettings) : Value :=
  .object [("database_url", .text s.url), ("echo_sql", .bool s.echo)]

end DatabaseSettings

/-- The settings of notifications. -/
structure NotificationSettings where
  /-- Whether notifications are posted. -/
  enabled : Bool := true
  /-- Where notifications are posted to. -/
  webhookUrl : String := ""
  /-- What the text of a notification begins with. -/
  heading : String := "[ORDERS]"
  /-- The seconds that the receiver has to answer. -/
  timeout : Binary64 := .ofInt 10
deriving DecidableEq, Repr, Inhabited

namespace NotificationSettings

/-- The key of the switch. -/
def enabledKey : Key := ⟨⟨"NOTIFY_ENABLED", "enabled"⟩, false⟩

/-- The key of the receiver. -/
def webhookUrlKey : Key := ⟨⟨"NOTIFY_WEBHOOK_URL", "webhook_url"⟩, false⟩

/-- The key of the heading. -/
def headingKey : Key := ⟨⟨"NOTIFY_PREFIX", "prefix"⟩, false⟩

/-- The key of the timeout. -/
def timeoutKey : Key := ⟨⟨"NOTIFY_TIMEOUT_SECONDS", "timeout_seconds"⟩, true⟩

/-- The section from its sources. -/
def load (s : Sources) : Checked NotificationSettings :=
  let d : NotificationSettings := {}
  let fs := s.gather [enabledKey, webhookUrlKey, headingKey, timeoutKey]
  NotificationSettings.mk <$> optional fs enabledKey d.enabled Schema.boolean
    <*> optional fs webhookUrlKey d.webhookUrl Schema.text
    <*> optional fs headingKey d.heading Schema.text
    <*> optional fs timeoutKey d.timeout (Schema.numberAbove 0)

/-- The section as a document. -/
def document (s : NotificationSettings) : Value :=
  .object [("enabled", .bool s.enabled), ("webhook_url", .text s.webhookUrl),
    ("prefix", .text s.heading), ("timeout_seconds", .real s.timeout)]

end NotificationSettings

/-- All settings. -/
structure Settings where
  /-- The settings of the log. -/
  logging : LoggingSettings := {}
  /-- The settings of order processing. -/
  orders : OrderSettings := {}
  /-- The settings of workflows. -/
  workflow : WorkflowSettings := {}
  /-- The settings of the database. -/
  database : DatabaseSettings := {}
  /-- The settings of notifications. -/
  notifications : NotificationSettings := {}
deriving DecidableEq, Repr, Inhabited

namespace Settings

/-- The settings from their sources, which may differ from section to section. The sections are
loaded one after the other, and the first that is not accepted is reported. -/
def load (sources : String → Sources) : Checked Settings :=
  (LoggingSettings.load (sources "logging")).andThen fun logging =>
  (OrderSettings.load (sources "orders")).andThen fun orders =>
  (WorkflowSettings.load (sources "workflow")).andThen fun workflow =>
  (DatabaseSettings.load (sources "database")).andThen fun database =>
  (NotificationSettings.load (sources "notifications")).andThen fun notifications =>
  .accepted ⟨logging, orders, workflow, database, notifications⟩

/-- The settings as a document. -/
def document (s : Settings) : Value :=
  .object [("logging", s.logging.document), ("orders", s.orders.document),
    ("workflow", s.workflow.document), ("database", s.database.document),
    ("notifications", s.notifications.document)]

end Settings

end Fulfilment
