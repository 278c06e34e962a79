import Vestibule.Duration
import Vestibule.Text.Numeral
import Vestibule.Text.Blank
import Vestibule.Json.Bind

/-!
The settings of the web process, read from environment variables.

Each setting has a variable, a field name that messages use, a kind (text, span of time, whole
number, truth value) and mostly a default. A variable that is unset or empty takes the default;
one with no default is left at the zero of its kind. Every variable is read, in the order of the
settings, and all faults are reported together. A set of settings that reads is then checked: the
remote address must not be blank, the session lifetime and the sweep interval must be positive,
and every page route must be an absolute path.
-/

namespace Vestibule.Config

open Vestibule.Json

/-- Where the remote service is and how hard to try it. Spans are in nanoseconds. -/
structure Remote where
  baseUrl : String
  timeout : Int
  breakerFailures : Int
  breakerCooldown : Int
  deriving Repr, DecidableEq, Inhabited

/-- How long browser sessions live and how their cookies are sent. -/
structure Lifetime where
  ttl : Int
  sweepInterval : Int
  secureCookies : Bool
  deriving Repr, DecidableEq, Inhabited

/-- The pages that signing in leads to. -/
structure Pages where
  landing : String
  signup : String
  login : String
  chat : String
  deriving Repr, DecidableEq, Inhabited

/-- The shared credential store; it is used when its address is set. -/
structure Store where
  url : String
  poolSize : Int
  minIdleConns : Int
  dialTimeout : Int
  readTimeout : Int
  writeTimeout : Int
  deriving Repr, DecidableEq, Inhabited

/-- All settings of the web process. -/
structure Settings where
  addr : String
  shutdownTimeout : Int
  logLevel : String
  logFormat : String
  api : Remote
  sessions : Lifetime
  routes : Pages
  redis : Store
  deriving Repr, DecidableEq, Inhabited

/-- The environment: names with their values; a later entry for a name wins. -/
abbrev Environment := List (String × String)

def Environment.get? (env : Environment) (name : String) : Option String :=
  (env.reverse.find? (fun e => e.1 == name)).map Prod.snd

/-- How the text of a variable becomes a setting. -/
inductive Slot where
  | text (set : Settings → String → Settings)
  | span (set : Settings → Int → Settings)
  | whole (set : Settings → Int → Settings)
  | truth (set : Settings → Bool → Settings)

/-- The name of a slot's type in messages. -/
def Slot.typeName : Slot → String
  | .text _ => "string"
  | .span _ => "time.Duration"
  | .whole _ => "int"
  | .truth _ => "bool"

/-- Stores a text in a slot, or says why it does not fit. -/
def Slot.store (slot : Slot) (c : Settings) (v : String) : Except String Settings :=
  match slot with
  | .text set => .ok (set c v)
  | .span set =>
    match Duration.read v with
    | .ok d => .ok (set c d)
    | .error e => .error ("unable to parse duration: " ++ e.message v)
  | .whole set =>
    match Text.Numeral.readInt 32 v with
    | .ok n => .ok (set c n)
    | .error e => .error (e.message "ParseInt" v)
  | .truth set =>
    match Text.Numeral.readTruth v with
    | some b => .ok (set c b)
    | none => .error (Text.Numeral.NumberError.malformed.message "ParseBool" v)

/-- A setting: its variable, the field name messages use, its default and its slot. -/
structure Variable where
  name : String
  field : String
  fallback : Option String
  slot : Slot

/-- The settings in the order they are read. -/
def catalog : List Variable := [
  ⟨"PARLOR_ADDR", "Addr", some ":8080", .text fun c v => { c with addr := v }⟩,
  ⟨"PARLOR_SHUTDOWN_TIMEOUT", "ShutdownTimeout", some "10s",
    .span fun c v => { c with shutdownTimeout := v }⟩,
  ⟨"PARLOR_LOG_LEVEL", "LogLevel", some "info", .text fun c v => { c with logLevel := v }⟩,
  ⟨"PARLOR_LOG_FORMAT", "LogFormat", some "json", .text fun c v => { c with logFormat := v }⟩,
  ⟨"PARLOR_API_BASE_URL", "BaseURL", some "http://localhost:9000",
    .text fun c v => { c with api.baseUrl := v }⟩,
  ⟨"PARLOR_API_TIMEOUT", "Timeout", some "10s", .span fun c v => { c with api.timeout := v }⟩,
  ⟨"PARLOR_API_BREAKER_FAILURES", "BreakerFailures", some "5",
    .whole fun c v => { c with api.breakerFailures := v }⟩,
  ⟨"PARLOR_API_BREAKER_COOLDOWN", "BreakerCooldown", some "5s",
    .span fun c v => { c with api.breakerCooldown := v }⟩,
  ⟨"PARLOR_SESSION_TTL", "TTL", some "12h", .span fun c v => { c with sessions.ttl := v }⟩,
  ⟨"PARLOR_SESSION_SWEEP_INTERVAL", "SweepInterval", some "5m",
    .span fun c v => { c with sessions.sweepInterval := v }⟩,
  ⟨"PARLOR_SESSION_SECURE_COOKIES", "SecureCookies", some "true",
    .truth fun c v => { c with sessions.secureCookies := v }⟩,
  ⟨"PARLOR_ROUTE_LANDING", "Landing", some "/", .text fun c v => { c with routes.landing := v }⟩,
  ⟨"PARLOR_ROUTE_SIGNUP", "Signup", some "/signup", .text fun c v => { c with routes.signup := v }⟩,
  ⟨"PARLOR_ROUTE_LOGIN", "Login", some "/login", .text fun c v => { c with routes.login := v }⟩,
  ⟨"PARLOR_ROUTE_CHAT", "Chat", some "/chat", .text fun c v => { c with routes.chat := v }⟩,
  ⟨"PARLOR_REDIS_URL", "URL", none, .text fun c v => { c with redis.url := v }⟩,
  ⟨"PARLOR_REDIS_POOL_SIZE", "PoolSize", some "10",
    .whole fun c v => { c with redis.poolSize := v }⟩,
  ⟨"PARLOR_REDIS_MIN_IDLE_CONNS", "MinIdleConns", some "2",
    .whole fun c v => { c with redis.minIdleConns := v }⟩,
  ⟨"PARLOR_REDIS_DIAL_TIMEOUT", "DialTimeout", some "5s",
    .span fun c v => { c with redis.dialTimeout := v }⟩,
  ⟨"PARLOR_REDIS_READ_TIMEOUT", "ReadTimeout", some "3s",
    .span fun c v => { c with redis.readTimeout := v }⟩,
  ⟨"PARLOR_REDIS_WRITE_TIMEOUT", "WriteTimeout", some "3s",
    .span fun c v => { c with redis.writeTimeout := v }⟩]

def Settings.zero : Settings :=
  ⟨"", 0, "", "", ⟨"", 0, 0, 0⟩, ⟨0, 0, false⟩, ⟨"", "", "", ""⟩, ⟨"", 0, 0, 0, 0, 0⟩⟩

/-- The text a variable contributes: its value, or its default when unset or empty. -/
def Variable.text (env : Environment) (x : Variable) : String :=
  match env.get? x.name, x.fallback with
  | some v, some d => if v.isEmpty then d else v
  | some v, none => v
  | none, some d => d
  | none, none => ""

def Variable.fault (x : Variable) (why : String) : String :=
  "parse error on field " ++ Text.Quote.quote x.field ++ " of type " ++
    Text.Quote.quote x.slot.typeName ++ ": " ++ why

/-- Reads one variable onto the settings, keeping the faults met so far. -/
def Variable.apply (env : Environment) (acc : Settings × List String) (x : Variable) :
    Settings × List String :=
  let v := x.text env
  if v.isEmpty then acc
  else
    match x.slot.store acc.1 v with
    | .ok c => (c, acc.2)
    | .error why => (acc.1, acc.2 ++ [x.fault why])

/-- Why settings cannot be used. -/
inductive Problem where
  | unreadable (faults : List String)
  | noRemote
  | lifetimeNotPositive
  | sweepNotPositive
  | relativeRoute (page path : String)
  deriving Repr, DecidableEq

/-- The message of a problem. Faults of reading are listed after one heading, each after a
blank and before a semicolon, and the last semicolon is left off. -/
def Problem.message : Problem → String
  | .unreadable faults =>
    let listed := "env:" ++ String.join (faults.map fun f => " " ++ f ++ ";")
    "parse env: " ++ String.ofList (listed.toList.reverse.dropWhile (· == ';')).reverse
  | .noRemote => "PARLOR_API_BASE_URL is required"
  | .lifetimeNotPositive => "PARLOR_SESSION_TTL must be positive"
  | .sweepNotPositive => "PARLOR_SESSION_SWEEP_INTERVAL must be positive"
  | .relativeRoute page path =>
    page ++ " route must be an absolute path, got " ++ Text.Quote.quote path

def Pages.named (p : Pages) : List (String × String) :=
  [("landing", p.landing), ("signup", p.signup), ("login", p.login), ("chat", p.chat)]

/-- The first problem that makes settings unusable. -/
def Settings.check (c : Settings) : Option Problem :=
  if Text.isBlankText c.api.baseUrl then some .noRemote
  else if c.sessions.ttl ≤ 0 then some .lifetimeNotPositive
  else if c.sessions.sweepInterval ≤ 0 then some .sweepNotPositive
  else
    (c.routes.named.find? (fun r => !r.2.startsWith "/")).map fun r => .relativeRoute r.1 r.2

def read (env : Environment) : Except Problem Settings :=
  match catalog.foldl (Variable.apply env) (Settings.zero, []) with
  | (c, []) => .ok c
  | (_, faults) => .error (.unreadable faults)

/-- Reads the settings and checks them. -/
def fromEnvironment (env : Environment) : Except Problem Settings := do
  let c ← read env
  match c.check with
  | some p => throw p
  | none => pure c

/-- The JSON form of the settings, under their exported field names. -/
def Settings.toValue (c : Settings) : Value :=
  .object [
    ("Addr", .string c.addr),
    ("ShutdownTimeout", .ofInt c.shutdownTimeout),
    ("LogLevel", .string c.logLevel),
    ("LogFormat", .string c.logFormat),
    ("API", .object [
      ("BaseURL", .string c.api.baseUrl),
      ("Timeout", .ofInt c.api.timeout),
      ("BreakerFailures", .ofInt c.api.breakerFailures),
      ("BreakerCooldown", .ofInt c.api.breakerCooldown)]),
    ("Sessions", .object [
      ("TTL", .ofInt c.sessions.ttl),
      ("SweepInterval", .ofInt c.sessions.sweepInterval),
      ("SecureCookies", .bool c.sessions.secureCookies)]),
    ("Routes", .object [
      ("Landing", .string c.routes.landing),
      ("Signup", .string c.routes.signup),
      ("Login", .string c.routes.login),
      ("Chat", .string c.routes.chat)]),
    ("Redis", .object [
      ("URL", .string c.redis.url),
      ("PoolSize", .ofInt c.redis.poolSize),
      ("MinIdleConns", .ofInt c.redis.minIdleConns),
      ("DialTimeout", .ofInt c.redis.dialTimeout),
      ("ReadTimeout", .ofInt c.redis.readTimeout),
      ("WriteTimeout", .ofInt c.redis.writeTimeout)])]

/-- How the remote part of the settings is read from JSON. -/
def Remote.layout : Layout Remote where
  qualified := "config.APIConfig"
  short := "APIConfig"
  fields := [
    .of "BaseURL" .text (·.baseUrl) (fun r x => { r with baseUrl := x }),
    .of "Timeout" (.int64As "time.Duration") (·.timeout) (fun r x => { r with timeout := x }),
    .of "BreakerFailures" (.int64As "int") (·.breakerFailures)
      (fun r x => { r with breakerFailures := x }),
    .of "BreakerCooldown" (.int64As "time.Duration") (·.breakerCooldown)
      (fun r x => { r with breakerCooldown := x })]

/-- How the session part of the settings is read from JSON. -/
def Lifetime.layout : Layout Lifetime where
  qualified := "config.SessionsConfig"
  short := "SessionsConfig"
  fields := [
    .of "TTL" (.int64As "time.Duration") (·.ttl) (fun l x => { l with ttl := x }),
    .of "SweepInterval" (.int64As "time.Duration") (·.sweepInterval)
      (fun l x => { l with sweepInterval := x }),
    .of "SecureCookies" .truth (·.secureCookies) (fun l x => { l with secureCookies := x })]

/-- How the pages of the settings are read from JSON. -/
def Pages.layout : Layout Pages where
  qualified := "config.RoutesConfig"
  short := "RoutesConfig"
  fields := [
    .of "Landing" .text (·.landing) (fun p x => { p with landing := x }),
    .of "Signup" .text (·.signup) (fun p x => { p with signup := x }),
    .of "Login" .text (·.login) (fun p x => { p with login := x }),
    .of "Chat" .text (·.chat) (fun p x => { p with chat := x })]

/-- How the store part of the settings is read from JSON. -/
def Store.layout : Layout Store where
  qualified := "config.RedisConfig"
  short := "RedisConfig"
  fields := [
    .of "URL" .text (·.url) (fun s x => { s with url := x }),
    .of "PoolSize" (.int64As "int") (·.poolSize) (fun s x => { s with poolSize := x }),
    .of "MinIdleConns" (.int64As "int") (·.minIdleConns) (fun s x => { s with minIdleConns := x }),
    .of "DialTimeout" (.int64As "time.Duration") (·.dialTimeout)
      (fun s x => { s with dialTimeout := x }),
    .of "ReadTimeout" (.int64As "time.Duration") (·.readTimeout)
      (fun s x => { s with readTimeout := x }),
    .of "WriteTimeout" (.int64As "time.Duration") (·.writeTimeout)
      (fun s x => { s with writeTimeout := x })]

/-- How whole settings are read from JSON. -/
def Settings.layout : Layout Settings where
  qualified := "config.Server"
  short := "Server"
  fields := [
    .of "Addr" .text (·.addr) (fun c x => { c with addr := x }),
    .of "ShutdownTimeout" (.int64As "time.Duration") (·.shutdownTimeout)
      (fun c x => { c with shutdownTimeout := x }),
    .of "LogLevel" .text (·.logLevel) (fun c x => { c with logLevel := x }),
    .of "LogFormat" .text (·.logFormat) (fun c x => { c with logFormat := x }),
    .of "API" (.record Remote.layout) (·.api) (fun c x => { c with api := x }),
    .of "Sessions" (.record Lifetime.layout) (·.sessions) (fun c x => { c with sessions := x }),
    .of "Routes" (.record Pages.layout) (·.routes) (fun c x => { c with routes := x }),
    .of "Redis" (.record Store.layout) (·.redis) (fun c x => { c with redis := x })]

theorem catalog_length : catalog.length = 21 := rfl

end Vestibule.Config
