import Harvest.Record
import Harvest.Settings.Basic
import Harvest.Yaml.Printer
import Harvest.Yaml.Value

/-! Settings as documents. A setting that a document leaves out has its default, and unknown names are
passed over. -/

namespace Harvest

variable {V : Type} [Record.Source V]

namespace ApiSettings

/-- The names of the settings, in order. -/
def fieldNames : List String :=
  ["distributor_url", "bind_address", "cors_origins", "request_timeout"]

/-- Reads settings, with those of `base` where the document has none. -/
def read? (base : ApiSettings) (document : V) : Option ApiSettings := do
  let members ← Record.fields? fieldNames document
  return {
    distributorUrl := ← Record.read? ["distributor_url"] base.distributorUrl Record.text? members
    bindAddress := ← Record.read? ["bind_address"] base.bindAddress Record.text? members
    corsOrigins := ← Record.read? ["cors_origins"] base.corsOrigins Record.texts? members
    requestTimeout :=
      ← Record.read? ["request_timeout"] base.requestTimeout (Record.nat? Word.bound) members }

/-- The document of settings. -/
def toJson (settings : ApiSettings) : Json :=
  .object [
    ("distributor_url", .string settings.distributorUrl),
    ("bind_address", .string settings.bindAddress),
    ("cors_origins", .array (settings.corsOrigins.map .string)),
    ("request_timeout", .int settings.requestTimeout)]

end ApiSettings

namespace WorkerSettings

/-- The names of the settings, in order. -/
def fieldNames : List String :=
  ["instances", "threads", "batch_size", "max_runtime", "shutdown_grace", "start_stagger", "give_up_after",
    "cooldown_min", "cooldown_max", "request_delay_max", "request_timeout", "flush_interval",
    "write_layout_errors", "rule_id", "round_backoff"]

/-- Reads settings, with those of `base` where the document has none. -/
def read? (base : WorkerSettings) (document : V) : Option WorkerSettings := do
  let members ← Record.fields? fieldNames document
  let word (name : String) (missing : Nat) : Option Nat :=
    Record.read? [name] missing (Record.nat? Word.bound) members
  return {
    instances := ← word "instances" base.instances
    threads := ← word "threads" base.threads
    batchSize := ← word "batch_size" base.batchSize
    maxRuntime := ← word "max_runtime" base.maxRuntime
    shutdownGrace := ← word "shutdown_grace" base.shutdownGrace
    startStagger := ← word "start_stagger" base.startStagger
    giveUpAfter := ← Record.read? ["give_up_after"] base.giveUpAfter (Record.nat? Word.halfBound) members
    cooldownMin := ← word "cooldown_min" base.cooldownMin
    cooldownMax := ← word "cooldown_max" base.cooldownMax
    requestDelayMax := ← word "request_delay_max" base.requestDelayMax
    requestTimeout := ← word "request_timeout" base.requestTimeout
    flushInterval := ← word "flush_interval" base.flushInterval
    writeLayoutErrors := ← Record.read? ["write_layout_errors"] base.writeLayoutErrors Record.flag? members
    ruleId := ← Record.read? ["rule_id"] base.ruleId (Record.optional? Record.text?) members
    roundBackoff := ← word "round_backoff" base.roundBackoff }

/-- The document of settings. -/
def toJson (settings : WorkerSettings) : Json :=
  .object [
    ("instances", .int settings.instances),
    ("threads", .int settings.threads),
    ("batch_size", .int settings.batchSize),
    ("max_runtime", .int settings.maxRuntime),
    ("shutdown_grace", .int settings.shutdownGrace),
    ("start_stagger", .int settings.startStagger),
    ("give_up_after", .int settings.giveUpAfter),
    ("cooldown_min", .int settings.cooldownMin),
    ("cooldown_max", .int settings.cooldownMax),
    ("request_delay_max", .int settings.requestDelayMax),
    ("request_timeout", .int settings.requestTimeout),
    ("flush_interval", .int settings.flushInterval),
    ("write_layout_errors", .bool settings.writeLayoutErrors),
    ("rule_id", (settings.ruleId.map Json.string).getD .null),
    ("round_backoff", .int settings.roundBackoff)]

end WorkerSettings

namespace ProxySettings

/-- The names of the settings, in order. -/
def fieldNames : List String :=
  ["enabled", "protocol", "list_url", "refresh_interval", "validation_timeout", "validation_concurrency",
    "min_dwell", "failure_threshold", "wait_poll"]

/-- Reads settings, with those of `base` where the document has none. -/
def read? (base : ProxySettings) (document : V) : Option ProxySettings := do
  let members ← Record.fields? fieldNames document
  let word (name : String) (missing : Nat) : Option Nat :=
    Record.read? [name] missing (Record.nat? Word.bound) members
  return {
    enabled := ← Record.read? ["enabled"] base.enabled Record.flag? members
    protocol := ← Record.read? ["protocol"] base.protocol Record.text? members
    listUrl := ← Record.read? ["list_url"] base.listUrl Record.text? members
    refreshInterval := ← word "refresh_interval" base.refreshInterval
    validationTimeout := ← word "validation_timeout" base.validationTimeout
    validationConcurrency := ← word "validation_concurrency" base.validationConcurrency
    minDwell := ← word "min_dwell" base.minDwell
    failureThreshold := ←
      Record.read? ["failure_threshold"] base.failureThreshold (Record.nat? Word.halfBound) members
    waitPoll := ← word "wait_poll" base.waitPoll }

/-- The document of settings. -/
def toJson (settings : ProxySettings) : Json :=
  .object [
    ("enabled", .bool settings.enabled),
    ("protocol", .string settings.protocol),
    ("list_url", .string settings.listUrl),
    ("refresh_interval", .int settings.refreshInterval),
    ("validation_timeout", .int settings.validationTimeout),
    ("validation_concurrency", .int settings.validationConcurrency),
    ("min_dwell", .int settings.minDwell),
    ("failure_threshold", .int settings.failureThreshold),
    ("wait_poll", .int settings.waitPoll)]

end ProxySettings

namespace LeaseSettings

/-- The names of the settings, in order. -/
def fieldNames : List String :=
  ["reclaim_after", "sweep_interval", "generation_interval", "selection_sample"]

/-- Reads settings, with those of `base` where the document has none. -/
def read? (base : LeaseSettings) (document : V) : Option LeaseSettings := do
  let members ← Record.fields? fieldNames document
  let word (name : String) (missing : Nat) : Option Nat :=
    Record.read? [name] missing (Record.nat? Word.bound) members
  return {
    reclaimAfter := ← word "reclaim_after" base.reclaimAfter
    sweepInterval := ← word "sweep_interval" base.sweepInterval
    generationInterval := ← word "generation_interval" base.generationInterval
    selectionSample := ← word "selection_sample" base.selectionSample }

/-- The document of settings. -/
def toJson (settings : LeaseSettings) : Json :=
  .object [
    ("reclaim_after", .int settings.reclaimAfter),
    ("sweep_interval", .int settings.sweepInterval),
    ("generation_interval", .int settings.generationInterval),
    ("selection_sample", .int settings.selectionSample)]

end LeaseSettings

namespace StorageSettings

/-- The names of the settings, in order. -/
def fieldNames : List String :=
  ["backend", "connection_string", "database_name", "page_size"]

/-- Reads settings, with those of `base` where the document has none. -/
def read? (base : StorageSettings) (document : V) : Option StorageSettings := do
  let members ← Record.fields? fieldNames document
  return {
    backend := ← Record.read? ["backend"] base.backend Record.text? members
    connectionString := ← Record.read? ["connection_string"] base.connectionString Record.text? members
    databaseName := ← Record.read? ["database_name"] base.databaseName Record.text? members
    pageSize := ← Record.read? ["page_size"] base.pageSize (Record.nat? Word.bound) members }

/-- The document of settings. -/
def toJson (settings : StorageSettings) : Json :=
  .object [
    ("backend", .string settings.backend),
    ("connection_string", .string settings.connectionString),
    ("database_name", .string settings.databaseName),
    ("page_size", .int settings.pageSize)]

end StorageSettings

namespace Settings

/-- The names of the sections, in order. -/
def sectionNames : List String :=
  ["api", "worker", "proxy", "lease", "storage"]

/-- Reads all settings. -/
def read? (document : V) : Option Settings := do
  let members ← Record.fields? sectionNames document
  return {
    api := ← Record.read? ["api"] {} (ApiSettings.read? {}) members
    worker := ← Record.read? ["worker"] {} (WorkerSettings.read? {}) members
    proxy := ← Record.read? ["proxy"] {} (ProxySettings.read? {}) members
    lease := ← Record.read? ["lease"] {} (LeaseSettings.read? {}) members
    storage := ← Record.read? ["storage"] {} (StorageSettings.read? {}) members }

/-- The sections of settings. -/
def sections (settings : Settings) : Fields :=
  [("api", settings.api.toJson),
    ("worker", settings.worker.toJson),
    ("proxy", settings.proxy.toJson),
    ("lease", settings.lease.toJson),
    ("storage", settings.storage.toJson)]

/-- Reads settings from the text of a file. -/
def parse? (text : String) : Option Settings :=
  (Yaml.Node.parse? text).bind read?

/-- The text of a file with the settings. -/
def render (settings : Settings) : String :=
  Yaml.render settings.sections

end Settings

end Harvest
