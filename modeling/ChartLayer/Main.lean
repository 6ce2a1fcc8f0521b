import ChartLayer.Json.Writer
import ChartLayer.Snapshot.Replay
import Std.Time.Format

/-!
# The command line

Reads a snapshot from a file, replays it and prints the report. The exit code is 2 for a command
line that does not read, and 1 for everything else that goes wrong.
-/

namespace ChartLayer.CommandLine

/-- The environment variables that are set. -/
def environment : IO Settings.Environment := do
  let found ← Settings.variableNames.filterMapM fun name => do
    return (← IO.getEnv name).map fun value => (name, value)
  return fun name => found.lookup name

/-- The moment of a report. -/
def stamp : IO String := do
  let now ← Std.Time.Timestamp.now
  return (Std.Time.DateTime.ofTimestampWithZone now Std.Time.TimeZone.UTC).format
    "uuuu-MM-dd'T'HH:mm:ss.SSSSSSSSSxxx"

/-- Replays a snapshot as the options say. -/
def replayFile (o : ReplayOptions) : IO UInt32 := do
  let text ← IO.FS.readFile o.input
  match replay (← environment) o text with
  | .error fault =>
    IO.eprintln ("Error: " ++ fault.message)
    return 1
  | .ok report =>
    if let some path := o.table then IO.FS.writeFile path report.table
    IO.println (Json.pretty (.record (("generated_at", .text (← stamp)) :: report.fields)))
    return 0

end ChartLayer.CommandLine

open ChartLayer in
def main (arguments : List String) : IO UInt32 := do
  match ReplayOptions.ofArguments arguments with
  | .error fault =>
    IO.eprintln ("error: " ++ fault.message)
    return 2
  | .ok o =>
    try CommandLine.replayFile o
    catch e =>
      IO.eprintln ("Error: " ++ toString e)
      return 1
