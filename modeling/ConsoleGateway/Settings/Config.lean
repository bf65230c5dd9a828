import ConsoleGateway.Decode.Record
import ConsoleGateway.Json.Value

namespace ConsoleGateway

open Decode Json

structure CacheConfig where
  maxAge : UInt32 := 0
  immutable : Bool := false
  mustRevalidate : Bool := true
  deriving DecidableEq, Repr

structure BackendConfig where
  baseUrl : String := "http://127.0.0.1:8080"
  sessionCookie : String := "sid"
  timeoutSecs : UInt64 := 10
  deriving DecidableEq, Repr

structure RoutesConfig where
  defaultLanding : String := "/harbor/projects"
  deriving DecidableEq, Repr

structure SessionConfig where
  ttlSecs : Int64 := 1800
  cleanupIntervalSecs : UInt64 := 300
  deriving DecidableEq, Repr

structure StaticFilesConfig where
  path : String := "./static"
  index : String := "index.html"
  enableCompression : Bool := true
  cache : CacheConfig := {}
  deriving DecidableEq, Repr

structure Config where
  serverAddr : String := "127.0.0.1:8081"
  logLevel : String := "info"
  -- The registry takes no changes; only a warning comes of it.
  readOnly : Bool := false
  backend : BackendConfig := {}
  routes : RoutesConfig := {}
  session : SessionConfig := {}
  staticFiles : StaticFilesConfig := {}
  deriving DecidableEq, Repr

namespace CacheConfig

def headerValue (c : CacheConfig) : String :=
  ", ".intercalate (["max-age=" ++ toString c.maxAge.toNat]
    ++ (if c.immutable then ["immutable"] else [])
    ++ (if c.mustRevalidate then ["must-revalidate"] else []))

def toJson (c : CacheConfig) : Value :=
  .object [("max_age", .int c.maxAge.toNat), ("immutable", .bool c.immutable),
    ("must_revalidate", .bool c.mustRevalidate)]

def fields : Fields [UInt32, Bool, Bool] :=
  .cons (.withDefault "max_age" [] uint32 0) <|
  .cons (.withDefault "immutable" [] bool false) <|
  .cons (.withDefault "must_revalidate" [] bool true) .nil

def reader : Reader CacheConfig :=
  (record "CacheConfig" fields).map fun (maxAge, immutable, mustRevalidate, ()) =>
    ⟨maxAge, immutable, mustRevalidate⟩

end CacheConfig

namespace BackendConfig

def toJson (c : BackendConfig) : Value :=
  .object [("base_url", .string c.baseUrl), ("session_cookie", .string c.sessionCookie),
    ("timeout_secs", .int c.timeoutSecs.toNat)]

def fields : Fields [String, String, UInt64] :=
  .cons (.withDefault "base_url" [] string "http://127.0.0.1:8080") <|
  .cons (.withDefault "session_cookie" [] string "sid") <|
  .cons (.withDefault "timeout_secs" [] uint64 10) .nil

def reader : Reader BackendConfig :=
  (record "BackendConfig" fields).map fun (baseUrl, sessionCookie, timeoutSecs, ()) =>
    ⟨baseUrl, sessionCookie, timeoutSecs⟩

end BackendConfig

namespace RoutesConfig

def toJson (c : RoutesConfig) : Value :=
  .object [("default_landing", .string c.defaultLanding)]

def fields : Fields [String] :=
  .cons (.withDefault "default_landing" [] string "/harbor/projects") .nil

def reader : Reader RoutesConfig :=
  (record "RoutesConfig" fields).map fun (defaultLanding, ()) => ⟨defaultLanding⟩

end RoutesConfig

namespace SessionConfig

def toJson (c : SessionConfig) : Value :=
  .object [("ttl_secs", .int c.ttlSecs.toInt),
    ("cleanup_interval_secs", .int c.cleanupIntervalSecs.toNat)]

def fields : Fields [Int64, UInt64] :=
  .cons (.withDefault "ttl_secs" [] int64 1800) <|
  .cons (.withDefault "cleanup_interval_secs" [] uint64 300) .nil

def reader : Reader SessionConfig :=
  (record "SessionConfig" fields).map fun (ttlSecs, cleanupIntervalSecs, ()) =>
    ⟨ttlSecs, cleanupIntervalSecs⟩

end SessionConfig

namespace StaticFilesConfig

def toJson (c : StaticFilesConfig) : Value :=
  .object [("path", .string c.path), ("index", .string c.index),
    ("enable_compression", .bool c.enableCompression), ("cache", c.cache.toJson)]

def fields : Fields [String, String, Bool, CacheConfig] :=
  .cons (.withDefault "path" [] string "./static") <|
  .cons (.withDefault "index" [] string "index.html") <|
  .cons (.withDefault "enable_compression" [] bool true) <|
  .cons (.withDefault "cache" [] CacheConfig.reader {}) .nil

def reader : Reader StaticFilesConfig :=
  (record "StaticFilesConfig" fields).map fun (path, index, enableCompression, cache, ()) =>
    ⟨path, index, enableCompression, cache⟩

end StaticFilesConfig

namespace Config

def toJson (c : Config) : Value :=
  .object [("server_addr", .string c.serverAddr), ("log_level", .string c.logLevel),
    ("read_only", .bool c.readOnly), ("backend", c.backend.toJson), ("routes", c.routes.toJson),
    ("session", c.session.toJson), ("static_files", c.staticFiles.toJson)]

def fields : Fields [String, String, Bool, BackendConfig, RoutesConfig, SessionConfig,
    StaticFilesConfig] :=
  .cons (.withDefault "server_addr" [] string "127.0.0.1:8081") <|
  .cons (.withDefault "log_level" [] string "info") <|
  .cons (.withDefault "read_only" [] bool false) <|
  .cons (.withDefault "backend" [] BackendConfig.reader {}) <|
  .cons (.withDefault "routes" [] RoutesConfig.reader {}) <|
  .cons (.withDefault "session" [] SessionConfig.reader {}) <|
  .cons (.withDefault "static_files" [] StaticFilesConfig.reader {}) .nil

def reader : Reader Config :=
  (record "Config" fields).map
    fun (serverAddr, logLevel, readOnly, backend, routes, session, staticFiles, ()) =>
      ⟨serverAddr, logLevel, readOnly, backend, routes, session, staticFiles⟩

end Config

end ConsoleGateway
