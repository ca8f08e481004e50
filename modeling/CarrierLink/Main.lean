import CarrierLink.Bench.Shell
import Std.Time.Zoned

/-!
# The program

The command line as a program. It finds the settings in the directory that `MKRIOT_HOME`
names, or else in `.mkriot` in the home directory, asks for the time of day, and prints what
the command leaves behind. There is no Bluetooth in this build, so a command that needs a
board says that it is not available.
-/

namespace CarrierLink.CommandLine

/-- The path of the settings. -/
def settingsPath? : IO (Option String) := do
  match ← IO.getEnv "MKRIOT_HOME" with
  | some directory => return some (directory ++ "/config.json")
  | none => return (← IO.getEnv "HOME").map (· ++ "/.mkriot/config.json")

/-- What is found where the settings are kept. -/
def findSettings : IO SettingsFile := do
  match ← settingsPath? with
  | none => return .homeless
  | some path =>
    try
      return .content (← IO.FS.readBinFile path).data.toList
    catch
      | .noFileOrDirectory .. => return .missing
      | _ => return .unreadable

/-- The time of day. -/
def timeOfDay : IO ClockTime := do
  let time ← Std.Time.PlainTime.now
  match ClockTime.ofParts time.hour.val.toNat time.minute.val.toNat with
  | .ok now => return now
  | .error e => throw (IO.userError e.message)

/-- Carries a command line out. -/
def perform (arguments : List String) : IO UInt32 := do
  let clock : Readings := ⟨← timeOfDay, ← timeOfDay⟩
  let transcript := Shell.execute (← findSettings) Platform.absent clock arguments
  (← IO.getStdout).putStr transcript.output
  (← IO.getStderr).putStr transcript.diagnostics
  return UInt32.ofNat transcript.exitCode

end CarrierLink.CommandLine

def main (arguments : List String) : IO UInt32 := CarrierLink.CommandLine.perform arguments
