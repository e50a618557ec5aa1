import Zigbee.Startup

/-!
# The program

The outer layer: it hands the words of the command line and the text of the file to
`Startup.run`, prints what that says and ends with its status. Serial ports cannot be
opened from here, so the start never gets beyond them.
-/

open Zigbee

/-- The world as the program finds it: one file has been looked at, and there are no
serial ports. -/
def observedWorld (logFilter : Option String) (path : String) (text : Option String) :
    Startup.World where
  logFilter := logFilter
  fileText? p := if p = path then text else none
  opens _ := false

/-- The text of a file, if it can be read. -/
def textOfFile? (path : String) : IO (Option String) := do
  try
    return some (← IO.FS.readFile path)
  catch _ =>
    return none

/-- A line of the log as it is printed. -/
def printedLine (line : Log.Line) : String :=
  let name := line.severity.name
  String.ofList (List.replicate (5 - name.length) ' ') ++ name ++ " " ++ Startup.portSource
    ++ ": " ++ line.text

/-- What is printed when the program cannot start. -/
def printObstacle (obstacle : Startup.Obstacle) : IO Unit :=
  obstacle.report.forM IO.eprintln

/-- Start with the given words on the command line. -/
def main (words : List String) : IO UInt32 := do
  let logFilter ← IO.getEnv "RUST_LOG"
  let path := match Settings.Arguments.parse words with
    | .ok arguments => arguments.configPath
    | .error _ => ""
  let (lines, ending) := Startup.run (observedWorld logFilter path (← textOfFile? path)) words
  lines.forM fun line => IO.println (printedLine line)
  match ending with
  | .interrupted .help => Settings.Arguments.helpLines.forM IO.println
  | .interrupted .misuse =>
    IO.eprintln "error: the command line makes no sense; for more information, try '--help'."
  | .blocked obstacle => printObstacle obstacle
  | .brokenFilter => IO.eprintln "error: the filter of the log is cut within a character."
  | .ready _ => pure ()
  return (ending.exitCode?.getD 0).toUInt32
