/-
# Settings

Settings come from the environment and, where it is silent, from the file `.env`.  Their names begin
with `MODCHECK_`, in capital or small letters.
-/
import ModifierLint.Config.EnvFile
import ModifierLint.Config.Error
import ModifierLint.Files.Store
import ModifierLint.Schema.Read
import ModifierLint.Text.Lowercase

namespace ModifierLint

/-- The settings of a run. -/
structure Settings where
  logLevel : String := "INFO"
  maxWorkers : Int := 4
  configFile : Option Path := none
  outputFormat : String := "plain"
  deriving Repr, DecidableEq, Inhabited

namespace Settings

/-- What the names of settings begin with, in small letters. -/
def namePrefix : String := "modcheck_"

/-- The names of the settings in capital letters. -/
def names : List String :=
  ["MODCHECK_LOG_LEVEL", "MODCHECK_MAX_WORKERS", "MODCHECK_CONFIG_FILE",
    "MODCHECK_OUTPUT_FORMAT"]

/-- The file with settings. -/
def envFile : Path := .ofString ".env"

/-- What a setting is bound to last; a name that is bound to nothing sets nothing. -/
def valueOf (bindings : List (String × Option String)) (name : String) : Option String :=
  (bindings.reverse.find? fun (n, _) => Text.lowercase n == namePrefix ++ name).bind Prod.snd

/-- An integer that is at least one. -/
def positive (s : String) : Schema.Checked Int :=
  match Schema.integer (.str s) with
  | .valid n => if n < 1 then Schema.Checked.complain (.lessThan 1) else pure n
  | .invalid issues => .invalid issues

/-- The settings that the environment describes and, where it is silent, a file. -/
def read (environment : List (String × String)) (file : EnvFile) : Schema.Checked Settings :=
  let outer := environment.map fun (name, value) => (name, some value)
  let setting (name : String) := (valueOf outer name).or (valueOf file.bindings name)
  let usual : Settings := {}
  let workers : Schema.Checked Int :=
    match setting "max_workers" with
    | some s => (positive s).at_ (.name "max_workers")
    | none => pure usual.maxWorkers
  (fun maxWorkers =>
    { logLevel := (setting "log_level").getD usual.logLevel
      maxWorkers
      configFile := (setting "config_file").map Path.ofString
      outputFormat := (setting "output_format").getD usual.outputFormat }) <$> workers

/-- The file with settings; one that is not there says nothing. -/
def readFile (reader : EnvFile.Reader) (environment : List (String × String))
    (files : FileStore) : Except ReadFailure EnvFile :=
  match files.find envFile with
  | .entry _ (.file _) => (files.readMarkedText envFile).map (reader environment)
  | _ => .ok {}

/-- The settings, or why they cannot be used. -/
def ofFile (environment : List (String × String)) (file : EnvFile) : Except ConfigError Settings :=
  match read environment file with
  | .valid settings => .ok settings
  | .invalid issues => .error (.invalidSettings issues)

/-- Why settings cannot be loaded. -/
inductive Failure
  | config (e : ConfigError)
  | reading (e : ReadFailure)
  deriving Repr, DecidableEq

/-- Loads the settings. -/
def load (reader : EnvFile.Reader) (environment : List (String × String)) (files : FileStore) :
    Except Failure Settings :=
  match readFile reader environment files with
  | .ok file => (ofFile environment file).mapError .config
  | .error e => .error (.reading e)

end Settings

end ModifierLint
