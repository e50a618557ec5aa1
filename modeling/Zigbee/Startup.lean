import Zigbee.Log.Filter
import Zigbee.Settings.File

/-!
# Starting the program

The filter of the log and the command line are read, then the file of settings, then the
settings are checked and the serial port is opened. The first of these that fails ends the
program. What can be read and opened is given as functions, so that `Startup.run` says for
every world how the program starts in it.
-/

namespace Zigbee

open Settings

namespace Startup

/-- Why the program cannot start. -/
inductive Obstacle where
  | unreadableFile
  | malformedFile
  | invalidSettings (cause : Failure)
  | closedPort (port : String)

namespace Obstacle

/-- What is said about an obstacle. -/
def message : Obstacle → String
  | unreadableFile => "Failed to read config file"
  | malformedFile => "Failed to parse config file"
  | invalidSettings _ => "Invalid configuration"
  | closedPort port => "Failed to open serial port " ++ port

/-- What has led to an obstacle, as far as the settings are to blame. -/
def causes : Obstacle → List String
  | invalidSettings cause => [cause.message]
  | _ => []

/-- The lines on an obstacle. -/
def report (o : Obstacle) : List String :=
  ("Error: " ++ o.message) ::
    (if o.causes = [] then [] else "" :: "Caused by:" :: o.causes.map ("    " ++ ·))

end Obstacle

/-- How the start ends. -/
inductive Ending where
  /-- The command line has been answered. -/
  | interrupted (reason : Interruption)
  | blocked (obstacle : Obstacle)
  /-- The filter of the log cannot be cut into its parts. -/
  | brokenFilter
  /-- The port is open and the radio can be started. -/
  | ready (config : Config)

/-- The status with which the program ends, if it does. -/
def Ending.exitCode? : Ending → Option Nat
  | interrupted .help => some 0
  | interrupted .misuse => some 2
  | blocked _ => some 1
  | brokenFilter => some 101
  | ready _ => none

/-- What the start needs of the world outside. -/
structure World where
  /-- What the environment says about the lines of the log to show. -/
  logFilter : Option String
  /-- The text of a file, if it can be read. -/
  fileText? : String → Option String
  /-- Whether a serial port can be opened. -/
  opens : String → Bool

/-- The source of the lines about the serial port. -/
def portSource : String := "ezstack::serial"

/-- The line that announces the opening of the port. -/
def openingLine (c : Config) : Log.Line :=
  ⟨.info, "Opening " ++ c.port ++ " at " ++ toString c.baudRate.toNat ++ " baud"⟩

/-- The settings from the file that the command line names. -/
def settings (world : World) (arguments : Arguments) : Except Obstacle Config :=
  match world.fileText? arguments.configPath with
  | none => .error .unreadableFile
  | some text =>
    match File.parse? text with
    | none => .error .malformedFile
    | some file =>
      let config := Config.ofSources file arguments
      match config.validate with
      | .error cause => .error (.invalidSettings cause)
      | .ok () => .ok config

/-- The lines of the log and the end of the start, whatever of the log is shown. -/
def start (world : World) (words : List String) : List Log.Line × Ending :=
  match Arguments.parse words with
  | .error reason => ([], .interrupted reason)
  | .ok arguments =>
    match settings world arguments with
    | .error obstacle => ([], .blocked obstacle)
    | .ok config =>
      ([openingLine config],
        if world.opens config.port then .ready config else .blocked (.closedPort config.port))

/-- The lines of the log that are shown and the end of the start. -/
def run (world : World) (words : List String) : List Log.Line × Ending :=
  match Log.Filter.ofText? world.logFilter with
  | none => ([], .brokenFilter)
  | some filter =>
    let (lines, ending) := start world words
    ((lines.filter fun line => filter.admits portSource line.severity).map Log.Line.shown, ending)

end Startup

end Zigbee
