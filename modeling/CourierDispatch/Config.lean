import CourierDispatch.Decimal.Numeral
import CourierDispatch.Decimal.Shortest
import CourierDispatch.DispatchError
import CourierDispatch.Pricing

/-!
# Settings

The service is set up from named settings, each with a default. A setting that is present has
to be readable, and some values are refused because nothing can run with them. Settings are
read in a fixed order and the first fault is reported.

All durations are whole milliseconds. `ofSettings` is `from_env`, with `parse_or_default` for each
setting, and ends in `validate`.
-/

namespace CourierDispatch

/-- The environment that the service runs in. -/
inductive AppEnv
  | development
  | staging
  | production
  deriving DecidableEq, Repr

/-- Reads the name of an environment, in any case and with blanks around it. -/
def AppEnv.read (s : String) : Except String AppEnv :=
  let name := String.ofList (Text.lower (Text.trim s.toList))
  if name = "development" ∨ name = "dev" ∨ name = "local" then .ok .development
  else if name = "staging" then .ok .staging
  else if name = "production" ∨ name = "prod" then .ok .production
  else .error s!"unknown environment {name}"

/-- How the search for a courier is timed, and how far it reaches. -/
structure MatchingConfig where
  tick : Nat
  deadline : Nat
  searchRadius : Float
  deriving DecidableEq, Repr

/-- Whether and how long directions are kept, and how far from the pickup products are offered. -/
structure RouteConfig where
  cacheEnabled : Bool
  cacheTtl : Nat
  productRadius : Float
  deriving DecidableEq, Repr

structure Config where
  httpPort : Nat
  logLevel : String
  eventBufferSize : Nat
  appEnv : AppEnv
  cacheEnabled : Bool
  cacheTtl : Nat
  mapsApiKey : String
  routesUrl : String
  placesUrl : String
  hourlyWage : UInt64
  baseProduct : String
  matchTick : Nat
  matchDeadline : Nat
  searchRadius : Float
  settleDelay : Nat
  deriving DecidableEq, Repr

def MatchingConfig.default : MatchingConfig where
  tick := 500
  deadline := 60000
  searchRadius := 2000.0

def RouteConfig.default : RouteConfig where
  cacheEnabled := true
  cacheTtl := 24 * 60 * 60 * 1000
  productRadius := 2000.0

namespace Config

def default : Config where
  httpPort := 3000
  logLevel := "info"
  eventBufferSize := 1024
  appEnv := .development
  cacheEnabled := true
  cacheTtl := RouteConfig.default.cacheTtl
  mapsApiKey := ""
  routesUrl := "https://routes.googleapis.com"
  placesUrl := "https://places.googleapis.com"
  hourlyWage := 100
  baseProduct := "economy"
  matchTick := MatchingConfig.default.tick
  matchDeadline := MatchingConfig.default.deadline
  searchRadius := MatchingConfig.default.searchRadius
  settleDelay := 3000

def pricer (c : Config) : Pricer := ⟨c.hourlyWage, c.baseProduct⟩

def routing (c : Config) : RouteConfig := ⟨c.cacheEnabled, c.cacheTtl, c.searchRadius⟩

def matching (c : Config) : MatchingConfig := ⟨c.matchTick, c.matchDeadline, c.searchRadius⟩

/-! ## Reading -/

/-- The settings that are present, by name. -/
abbrev Settings := List (String × String)

/-- A setting, or its default. -/
def setting (settings : Settings) (name : String) (read : String → Except String α)
    (instead : α) : Except DispatchError α :=
  match settings.lookup name with
  | none => .ok instead
  | some raw => match read raw with
    | .ok a => .ok a
    | .error fault => .error (.internal s!"invalid {name}: {fault}")

def readBelow (bound : Nat) (s : String) : Except String Nat :=
  (Decimal.readNatural bound s).mapError Decimal.NaturalFault.message

def readRadius (s : String) : Except String Float :=
  (Decimal.readReal s).mapError Decimal.RealFault.message

/-- Is the radius a number that a search can use? -/
def usableRadius (x : Float) : Bool := x.isFinite && !(x < 0.0)

/-- Refuses a tick or an event buffer of zero, and a radius that is negative or not finite. -/
def validate (c : Config) : Except DispatchError Unit :=
  if c.matchTick = 0 then .error (.internal "invalid MATCH_TICK_MS: must be greater than zero")
  else if c.eventBufferSize = 0 then
    .error (.internal "invalid EVENT_BUFFER_SIZE: must be greater than zero")
  else if !usableRadius c.searchRadius then
    .error (.internal s!"invalid SEARCH_RADIUS_METERS: {Decimal.plainText c.searchRadius}")
  else .ok ()

/-- Reads the settings. Directions are cached by default only in development. -/
def ofSettings (settings : Settings) : Except DispatchError Config := do
  let setting {α : Type} := @setting α settings
  let words (name instead : String) := (settings.lookup name).getD instead
  let appEnv ← setting "APP_ENV" AppEnv.read default.appEnv
  let httpPort ← setting "HTTP_PORT" (readBelow UInt16.size) default.httpPort
  let eventBufferSize ← setting "EVENT_BUFFER_SIZE" (readBelow UInt64.size) default.eventBufferSize
  let cacheEnabled ← setting "ROUTE_CACHE_ENABLED" Decimal.readFlag (appEnv = .development)
  let cacheTtl ← setting "ROUTE_CACHE_TTL_SECS"
    (fun s => (readBelow UInt64.size s).map (· * 1000)) default.cacheTtl
  let hourlyWage ← setting "HOURLY_WAGE"
    (fun s => (readBelow UInt64.size s).map UInt64.ofNat) default.hourlyWage
  let matchTick ← setting "MATCH_TICK_MS" (readBelow UInt64.size) default.matchTick
  let matchDeadline ← setting "MATCH_DEADLINE_SECS"
    (fun s => (readBelow UInt64.size s).map (· * 1000)) default.matchDeadline
  let searchRadius ← setting "SEARCH_RADIUS_METERS" readRadius default.searchRadius
  let settleDelay ← setting "SETTLE_DELAY_MS" (readBelow UInt64.size) default.settleDelay
  let config : Config := {
    httpPort, eventBufferSize, appEnv, cacheEnabled, cacheTtl, hourlyWage, matchTick
    matchDeadline, searchRadius, settleDelay
    logLevel := words "LOG_LEVEL" default.logLevel
    mapsApiKey := words "GOOGLE_MAPS_API_KEY" default.mapsApiKey
    routesUrl := words "ROUTES_API_URL" default.routesUrl
    placesUrl := words "PLACES_API_URL" default.placesUrl
    baseProduct := words "BASE_PRODUCT_NAME" default.baseProduct }
  config.validate
  return config

end Config

end CourierDispatch
