import ConsoleGateway.Settings.Convert
import ConsoleGateway.Settings.Source

namespace ConsoleGateway.Settings

inductive LoadError where
  | malformedFile
  | conversion (e : ConversionError)
  deriving DecidableEq, Repr

/-- The names of the files of a directory in a run mode, the lowest layer first. -/
def fileNames (dir runMode : String) : List String :=
  [joinName dir "default.toml", joinName dir (runMode ++ ".toml"), joinName dir "local.toml"]

def layers (s : Surroundings) (dir runMode : String) :
    Except LoadError (List (List (String × Tree))) := do
  let files ← ((fileNames dir runMode).mapM (fileSettings s)).mapError fun _ => .malformedFile
  return files ++ [environmentSettings s]

def merge (layers : List (List (String × Tree))) : Tree := layers.foldl Tree.addSource .empty

def loadFrom (s : Surroundings) (dir runMode : String) : Except LoadError Config := do
  (config (merge (← layers s dir runMode))).mapError .conversion

inductive ConfigOrigin where
  | files (dir runMode : String)
  | environment (reason : LoadError)
  deriving DecidableEq, Repr

def logLine (level message : String) : String :=
  .ofList (Unicode.trim (level ++ " common::config: " ++ message).toList)

def ConfigOrigin.log? : ConfigOrigin → Option (List String)
  | .files dir runMode =>
    some [logLine "INFO" ("Loading configuration from " ++ dir),
      logLine "INFO" ("Using run mode: " ++ runMode),
      logLine "INFO" "Configuration loaded from files and environment"]
  | .environment (.conversion e) =>
    some [logLine "WARN" ("Failed to load configuration from files: " ++ e.message),
      logLine "INFO" "Falling back to environment variables only"]
  | .environment .malformedFile => none

def runMode (s : Surroundings) : String := (s.valueOf? "RUN_MODE").getD "development"

def configDir (s : Surroundings) : String :=
  match s.valueOf? "CONFIG_DIR" with
  | some dir => dir
  | none => if s.hasDirectory "./config" then "./config" else "../config"

def isTrue (value : String) : Bool := lowercase value = "true"

def plainConfig (s : Surroundings) : Config :=
  let default : Config := {}
  { serverAddr := (s.valueOf? "SERVER_ADDR").getD default.serverAddr
    logLevel := (s.valueOf? "LOG_LEVEL").getD default.logLevel
    readOnly := ((s.valueOf? "READ_ONLY").map isTrue).getD default.readOnly
    backend :=
      { baseUrl := (s.valueOf? "BACKEND_URL").getD default.backend.baseUrl
        sessionCookie :=
          (s.valueOf? "BACKEND_SESSION_COOKIE").getD default.backend.sessionCookie
        timeoutSecs :=
          ((s.valueOf? "BACKEND_TIMEOUT_SECS").bind Integer.uint64?).getD
            default.backend.timeoutSecs }
    routes :=
      { defaultLanding :=
          (s.valueOf? "DEFAULT_LANDING_ROUTE").getD default.routes.defaultLanding }
    session := default.session
    staticFiles :=
      { default.staticFiles with
        path := (s.valueOf? "STATIC_FILES_PATH").getD default.staticFiles.path
        enableCompression :=
          ((s.valueOf? "ENABLE_COMPRESSION").map isTrue).getD
            default.staticFiles.enableCompression } }

def load (s : Surroundings) : Config × ConfigOrigin :=
  let dir := configDir s
  let mode := runMode s
  match loadFrom s dir mode with
  | .ok config => (config, .files dir mode)
  | .error e => (plainConfig s, .environment e)

end ConsoleGateway.Settings
