import ParcelDesk.Json.Decode
import ParcelDesk.Json.Value
import ParcelDesk.Settings.Basic

/-!
Settings as JSON. Some fields may be missing and take their defaults.
-/

namespace ParcelDesk

open Json (Decoder Record)

def Environment.all : List (String × Environment) :=
  [development, staging, production].map fun e => (e.label, e)

def Environment.decode : Decoder Environment := Json.oneNamed Environment.all

def LogFormat.all : List (String × LogFormat) := [json, pretty, compact].map fun f => (f.label, f)

def LogFormat.decode : Decoder LogFormat := Json.oneNamed LogFormat.all

namespace ServerSettings

def toJson (s : ServerSettings) : Json :=
  .obj [("host", .str s.host), ("port", .int s.port), ("workers", .int s.workers),
    ("shutdown_timeout", .int s.shutdownTimeout), ("keep_alive", .int s.keepAlive),
    ("allowed_origins", .ofList .str s.allowedOrigins)]

def decode : Decoder ServerSettings :=
  Record.decode "ServerConfig" <|
    mk <$> .required "host" Json.string <*> .required "port" Json.nat16
      <*> .defaulted "workers" 0 Json.size <*> .defaulted "shutdown_timeout" 10 Json.nat64
      <*> .defaulted "keep_alive" 75 Json.nat64
      <*> .defaulted "allowed_origins" [] (Json.list Json.string)

end ServerSettings

namespace DatabaseSettings

def toJson (d : DatabaseSettings) : Json :=
  .obj [("url", .str d.url), ("max_connections", .int d.maxConnections),
    ("connect_timeout", .int d.connectTimeout), ("idle_timeout", .int d.idleTimeout),
    ("max_lifetime", .int d.maxLifetime), ("run_migrations", .bool d.runMigrations),
    ("slow_query_threshold", .int d.slowQueryThreshold)]

def decode : Decoder DatabaseSettings :=
  Record.decode "DatabaseConfig" <|
    mk <$> .required "url" Json.string <*> .required "max_connections" Json.nat32
      <*> .required "connect_timeout" Json.nat64 <*> .required "idle_timeout" Json.nat64
      <*> .required "max_lifetime" Json.nat64 <*> .defaulted "run_migrations" true Json.boolean
      <*> .defaulted "slow_query_threshold" 1000 Json.nat64

end DatabaseSettings

namespace CacheSettings

def toJson (c : CacheSettings) : Json :=
  .obj [("url", .str c.url), ("connection_timeout", .int c.connectionTimeout),
    ("max_retries", .int c.maxRetries), ("retry_delay_ms", .int c.retryDelay)]

def decode : Decoder CacheSettings :=
  Record.decode "CacheConfig" <|
    mk <$> .required "url" Json.string <*> .required "connection_timeout" Json.nat64
      <*> .defaulted "max_retries" 3 Json.nat32 <*> .defaulted "retry_delay_ms" 100 Json.nat64

end CacheSettings

namespace TokenSettings

def toJson (t : TokenSettings) : Json :=
  .obj [("secret", .str t.secret), ("access_token_expiry", .int t.accessLifetime),
    ("refresh_token_expiry", .int t.refreshLifetime)]

def decode : Decoder TokenSettings :=
  Record.decode "JwtConfig" <|
    mk <$> .required "secret" Json.string <*> .required "access_token_expiry" Json.int64
      <*> .required "refresh_token_expiry" Json.int64

end TokenSettings

namespace AuthSettings

def toJson (a : AuthSettings) : Json :=
  .obj [("jwt", a.token.toJson), ("token_cache_ttl", .int a.cacheLifetime),
    ("bcrypt_cost", .int a.hashCost)]

def decode : Decoder AuthSettings :=
  Record.decode "AuthConfig" <|
    mk <$> .defaulted "jwt" {} TokenSettings.decode
      <*> .defaulted "token_cache_ttl" 600 Json.nat64 <*> .defaulted "bcrypt_cost" 12 Json.nat32

end AuthSettings

namespace OrderSettings

def toJson (o : OrderSettings) : Json :=
  .obj [("consignment_prefix", .str o.lead), ("home_city", .int o.homeCity),
    ("default_page_size", .int o.defaultPageSize), ("max_page_size", .int o.maxPageSize)]

def decode : Decoder OrderSettings :=
  Record.decode "OrderConfig" <|
    mk <$> .required "consignment_prefix" Json.string <*> .required "home_city" Json.int64
      <*> .required "default_page_size" Json.nat32 <*> .required "max_page_size" Json.nat32

end OrderSettings

namespace LogSettings

def toJson (l : LogSettings) : Json :=
  .obj [("level", .str l.level), ("format", .str l.format.label)]

def decode : Decoder LogSettings :=
  Record.decode "LoggingConfig" <|
    mk <$> .required "level" Json.string <*> .defaulted "format" .pretty LogFormat.decode

end LogSettings

namespace Settings

def toJson (s : Settings) : Json :=
  .obj [("environment", .str s.environment.label), ("server", s.server.toJson),
    ("database", s.database.toJson), ("cache", s.cache.toJson), ("auth", s.auth.toJson),
    ("orders", s.orders.toJson), ("logging", s.logging.toJson)]

def decode : Decoder Settings :=
  Record.decode "AppConfig" <|
    mk <$> .required "environment" Environment.decode <*> .required "server" ServerSettings.decode
      <*> .required "database" DatabaseSettings.decode <*> .required "cache" CacheSettings.decode
      <*> .required "auth" AuthSettings.decode <*> .defaulted "orders" {} OrderSettings.decode
      <*> .defaulted "logging" {} LogSettings.decode

end Settings

end ParcelDesk
