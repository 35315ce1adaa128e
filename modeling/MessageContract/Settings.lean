import MessageContract.Error
import MessageContract.Fields
import MessageContract.Text.Blank

/-!
The settings of a session: the pair it speaks for, the directory of its
contract file, and how it logs. Environment variables give defaults.
-/

namespace MessageContract

structure Settings where
  consumer : String
  provider : String
  directory : String
  logLevel : String
  jsonLogs : Bool := false
deriving DecidableEq, Repr

namespace Settings

/-- The variable that names the directory of contract files. -/
def directoryVariable : String := "PACT_DIR"

/-- The variable that sets the log level. -/
def logLevelVariable : String := "PACT_LOG_LEVEL"

def defaultLogLevel : String := "warn"

/-- The directory that the variable names unless it is empty, or else one below
the current directory. -/
def defaultDirectory (environment : Fields String) (current : String) : String :=
  match environment.get? directoryVariable with
  | some directory => if directory = "" then Path.join current "pacts" else directory
  | none => Path.join current "pacts"

def new (environment : Fields String) (current consumer provider : String) : Settings where
  consumer := consumer
  provider := provider
  directory := defaultDirectory environment current
  logLevel := (environment.get? logLevelVariable).getD defaultLogLevel

def withDirectory (s : Settings) (directory : String) : Settings :=
  { s with directory }

def logAt (s : Settings) (logLevel : String) : Settings :=
  { s with logLevel }

def logAsJson (s : Settings) : Settings :=
  { s with jsonLogs := true }

/-- Both names have to hold something that is not blank. -/
def validate (s : Settings) : Except Error Unit :=
  if Text.allBlank s.consumer then .error (.invalidSettings .blankConsumer)
  else if Text.allBlank s.provider then .error (.invalidSettings .blankProvider)
  else .ok ()

end Settings

end MessageContract
