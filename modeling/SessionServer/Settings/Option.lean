/-!
The options of the command line: their names, what they are for, and what stands in their place when
they are left out.
-/

namespace SessionServer.Settings

inductive Switch where
  | port
  | database
  | secretFile
  | sessionLifetime
  | blacklist
  | purgeInterval
  | pingInterval
  | secureCookies
  | logFormat
  | help
  deriving DecidableEq, Repr

structure Description where
  switch : Switch
  long : String
  short : Option Char := none
  /-- The name of its value, if it takes one. -/
  value : Option String := none
  /-- The environment variable that stands in for it. -/
  fallback : Option String := none
  about : String
  default : Option String := none
  /-- The values it may take, each with an explanation or without one. -/
  choices : List (String × Option String) := []
  deriving Repr

def programName : String := "parley"

def programAbout : String := "Real-time chat server"

def descriptions : List Description :=
  [{ switch := .port, long := "port", short := some 'p', value := some "PORT"
     fallback := some "PARLEY_PORT", about := "Port to listen on", default := some "7300" },
    { switch := .database, long := "database", short := some 'd', value := some "DATABASE"
      fallback := some "PARLEY_DATABASE", about := "Path to SQLite database file"
      default := some "parley.db" },
    { switch := .secretFile, long := "jwt-secret-file", value := some "JWT_SECRET_FILE"
      about :=
        "Path to file containing JWT secret. Prefer using JWT_SECRET env var instead" },
    { switch := .sessionLifetime, long := "session-ttl-secs", value := some "SESSION_TTL_SECS"
      fallback := some "PARLEY_SESSION_TTL_SECS", about := "Session token lifetime in seconds"
      default := some "86400" },
    { switch := .blacklist, long := "blacklist", value := some "BLACKLIST"
      fallback := some "PARLEY_BLACKLIST", about := "Revocation list backend"
      default := some "database"
      choices :=
        [("database", some
          "Shared through the database; every process on the same file sees every logout"),
          ("memory", some
            "Process-local; logouts are lost on restart and invisible to other processes")] },
    { switch := .purgeInterval, long := "purge-interval-secs", value := some "PURGE_INTERVAL_SECS"
      fallback := some "PARLEY_PURGE_INTERVAL_SECS"
      about := "Seconds between purges of expired revocations", default := some "300" },
    { switch := .pingInterval, long := "ws-ping-interval-secs"
      value := some "WS_PING_INTERVAL_SECS", fallback := some "PARLEY_WS_PING_INTERVAL_SECS"
      about :=
        "Seconds between WebSocket keepalives; open sockets re-check their session on each one" },
    { switch := .secureCookies, long := "secure-cookies", fallback := some "PARLEY_SECURE_COOKIES"
      about := "Set the Secure flag on session cookies (enable when served over HTTPS)" },
    { switch := .logFormat, long := "log-format", short := some 'l', value := some "LOG_FORMAT"
      about := "Log output format", default := some "pretty"
      choices := [("pretty", none), ("json", none), ("compact", none)] },
    { switch := .help, long := "help", short := some 'h', about := "Print help" }]

def byLong? (name : String) : Option Description := descriptions.find? (·.long = name)

def byShort? (name : Char) : Option Description := descriptions.find? (·.short = some name)

end SessionServer.Settings
