/-
Why a command failed, and the text that tells so: what was attempted, then what went wrong beneath
it.
-/
import BufferScope.Effect.Kind
import BufferScope.Settings.Basic

namespace BufferScope.Command

inductive CommandError where
  | notLoaded (path : String) (cause : SettingsError)
  | notRead (path : String) (cause : AudioError)
  | inputNeeded (effect : EffectKind)
  | badSeconds (seconds : Float) (cause : AudioError)
  | noScreen (cause : AudioError)
  | notWritten (path : String) (cause : AudioError)
  /-- Work that failed under way. -/
  | failed (cause : AudioError)

/-- The messages of an error: its own, and that of the file error in it. -/
def audioCauses : AudioError → List String
  | .file cause => [(AudioError.file cause).message, cause.message]
  | error => [error.message]

def settingsCauses : SettingsError → List String
  | .file cause => [(SettingsError.file cause).message, cause.message]
  | error => [error.message]

/-- All messages, outermost first. -/
def CommandError.messages : CommandError → String × List String
  | .notLoaded path cause => ("failed to load " ++ path, settingsCauses cause)
  | .notRead path cause => ("failed to read " ++ path, audioCauses cause)
  | .inputNeeded effect => ("effect '" ++ effect.name ++ "' needs an --input WAV file", [])
  | .badSeconds seconds cause => ("invalid --seconds " ++ Decimal.plain.text seconds, audioCauses cause)
  | .noScreen cause =>
    ("failed to open the scope screen (use --frames-dir or --no-window when headless)", audioCauses cause)
  | .notWritten path cause => ("failed to write " ++ path, audioCauses cause)
  | .failed cause => match audioCauses cause with
    | message :: rest => (message, rest)
    | [] => (cause.message, [])

/-- Causes, one a line. Several are numbered. -/
def causesText : List String → String
  | [] => ""
  | [cause] => "\nCaused by:\n    " ++ cause ++ "\n"
  | causes =>
    "\nCaused by:\n" ++ String.join (causes.mapIdx fun i cause => "    " ++ toString i ++ ": " ++ cause ++ "\n")

/-- The text of an error. -/
def CommandError.text (e : CommandError) : String :=
  let (message, causes) := e.messages
  "Error: " ++ message ++ "\n" ++ causesText causes

end BufferScope.Command
