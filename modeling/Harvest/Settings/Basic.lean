import Harvest.Number.Word

/-! The settings of coordinators and workers with their defaults, and the durations derived from them. -/

namespace Harvest

/-- How the job service is reached. -/
structure ApiSettings where
  /-- Where workers reach the coordinator. -/
  distributorUrl : String := "http://localhost:9999/api/v1/dist"
  /-- Where the coordinator listens. -/
  bindAddress : String := "0.0.0.0:9999"
  /-- Sites whose pages may use the service; none stands for all. -/
  corsOrigins : List String := []
  /-- Seconds until a request to the service is given up. -/
  requestTimeout : Nat := 30
  deriving DecidableEq, Repr, Inhabited

/-- How workers crawl. Times are in seconds where nothing else is said. -/
structure WorkerSettings where
  /-- Crawls in a round. -/
  instances : Nat := 3
  /-- Fetches that a crawl has open at a time. -/
  threads : Nat := 20
  /-- Links asked for at a time. -/
  batchSize : Nat := 100
  /-- How long a crawl goes on starting fetches. -/
  maxRuntime : Nat := 900
  /-- How much longer a crawl may take before it is cut off. -/
  shutdownGrace : Nat := 60
  /-- The longest pause before a crawl starts. -/
  startStagger : Nat := 10
  /-- How often an address is tried again. -/
  giveUpAfter : Nat := 12
  cooldownMin : Nat := 10
  cooldownMax : Nat := 120
  /-- The longest pause before a request, in milliseconds. -/
  requestDelayMax : Nat := 5000
  requestTimeout : Nat := 30
  /-- The time between two flushes of results. -/
  flushInterval : Nat := 60
  /-- Keep pages that do not have the expected form? -/
  writeLayoutErrors : Bool := false
  /-- The only rule to crawl. -/
  ruleId : Option String := none
  /-- The pause after a failed round. -/
  roundBackoff : Nat := 60
  deriving DecidableEq, Repr, Inhabited

/-- How a crawl hides behind proxies. Times are in seconds where nothing else is said. -/
structure ProxySettings where
  enabled : Bool := false
  protocol : String := "socks5"
  /-- Where the list of proxies is read. -/
  listUrl : String :=
    "https://api.proxyscrape.com/v2/?request=getproxies&protocol=socks5&timeout=10000&country=all"
  refreshInterval : Nat := 180
  validationTimeout : Nat := 10
  validationConcurrency : Nat := 200
  /-- The time that an identity is kept. -/
  minDwell : Nat := 10
  /-- The failures after which an identity is not kept any longer. -/
  failureThreshold : Nat := 10
  /-- The pause between two looks at an empty pool, in milliseconds. -/
  waitPoll : Nat := 1000
  deriving DecidableEq, Repr, Inhabited

/-- How the coordinator keeps leases, in seconds. -/
structure LeaseSettings where
  /-- The age from which a lease is taken back. -/
  reclaimAfter : Nat := 3600
  sweepInterval : Nat := 300
  generationInterval : Nat := 60
  /-- Active links looked at to select a rule. -/
  selectionSample : Nat := 100
  deriving DecidableEq, Repr, Inhabited

/-- Where documents are kept. -/
structure StorageSettings where
  backend : String := "memory"
  connectionString : String := "mongodb://localhost:27017"
  databaseName : String := "crawler"
  /-- Documents on a page of a listing. -/
  pageSize : Nat := 100
  deriving DecidableEq, Repr, Inhabited

/-- All settings. -/
structure Settings where
  api : ApiSettings := {}
  worker : WorkerSettings := {}
  proxy : ProxySettings := {}
  lease : LeaseSettings := {}
  storage : StorageSettings := {}
  deriving DecidableEq, Repr, Inhabited

/-- A number of seconds in milliseconds. -/
def seconds (n : Nat) : Nat :=
  1000 * n

/-- The time between two flushes of results in milliseconds; it is one second at least. -/
def WorkerSettings.flushMillis (settings : WorkerSettings) : Nat :=
  seconds (max settings.flushInterval 1)

/-- The time between two refreshes of the proxies in milliseconds; it is one second at least. -/
def ProxySettings.refreshMillis (settings : ProxySettings) : Nat :=
  seconds (max settings.refreshInterval 1)

/-- The time to check a proxy in milliseconds; it is one second at least. -/
def ProxySettings.validationMillis (settings : ProxySettings) : Nat :=
  seconds (max settings.validationTimeout 1)

/-- The time that an identity is kept in milliseconds. -/
def ProxySettings.dwellMillis (settings : ProxySettings) : Nat :=
  seconds settings.minDwell

/-- The pause between two looks at an empty pool; it is ten milliseconds at least. -/
def ProxySettings.waitMillis (settings : ProxySettings) : Nat :=
  max settings.waitPoll 10

/-- The age from which a lease is taken back in milliseconds. The seconds are a signed word. -/
def LeaseSettings.reclaimMillis (settings : LeaseSettings) : Int :=
  1000 * Word.signed settings.reclaimAfter

/-- The age from which a lease is taken back in milliseconds, unless a signed word has no room for their number. -/
def LeaseSettings.reclaimSpan? (settings : LeaseSettings) : Option Int :=
  if settings.reclaimMillis.natAbs < Word.signBound then some settings.reclaimMillis else none

/-- The time between two sweeps for old leases in milliseconds; it is one second at least. -/
def LeaseSettings.sweepMillis (settings : LeaseSettings) : Nat :=
  seconds (max settings.sweepInterval 1)

/-- The time between two looks for rules that are due in milliseconds; it is one second at least. -/
def LeaseSettings.generationMillis (settings : LeaseSettings) : Nat :=
  seconds (max settings.generationInterval 1)

/-- The times that are derived from settings in milliseconds, in the order of their names. -/
def Settings.durations (settings : Settings) : List (String × Int) :=
  [("flush_interval", settings.worker.flushMillis),
    ("generation_interval", settings.lease.generationMillis),
    ("max_runtime", seconds settings.worker.maxRuntime),
    ("min_dwell", settings.proxy.dwellMillis),
    ("reclaim_after", settings.lease.reclaimMillis),
    ("refresh_interval", settings.proxy.refreshMillis),
    ("shutdown_grace", seconds settings.worker.shutdownGrace),
    ("sweep_interval", settings.lease.sweepMillis),
    ("validation_timeout", settings.proxy.validationMillis),
    ("wait_poll", settings.proxy.waitMillis)]

end Harvest
