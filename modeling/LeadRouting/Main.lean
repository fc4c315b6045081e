import LeadRouting.Command.Line

/-!
# The program

A run of the program takes place in a world of files, of variables and of what is fed to it. Here
the world is the one around the process; all that is decided is decided by `CommandLine.run`.
-/

namespace LeadRouting.Program

/-- Why a file could not be read. -/
def faultOf : IO.Error → ReadFault
  | .noFileOrDirectory _ _ _ => .notFound
  | .inappropriateType _ code _ => if code = 21 then .isDirectory else .notDirectory
  | .permissionDenied _ _ _ => .other "Permission denied (os error 13)"
  | e => .other e.toString

/-- The text of what was read. -/
def textOf (read : IO ByteArray) : IO (Except ReadFault String) := do
  match ← read.toBaseIO with
  | .error e => return .error (faultOf e)
  | .ok bytes =>
    match String.fromUTF8? bytes with
    | some s => return .ok s
    | none => return .error .notText

/-- The files below the working folder. -/
def files : Files IO := ⟨fun path => textOf (IO.FS.readBinFile path)⟩

/-- The variable that an entry of the environment stands for. -/
def variableOf? (entry : List Char) : Option (String × String) :=
  match entry.dropWhile (· ≠ '=') with
  | _ :: value => some (String.ofList (entry.takeWhile (· ≠ '=')), String.ofList value)
  | [] => none

/-- The variables of the process. -/
def environment : IO (List (String × String)) := do
  match ← files.read "/proc/self/environ" with
  | .error _ => return []
  | .ok s => return (s.toList.splitOn (Char.ofNat 0)).filterMap variableOf?

/-- The world around the process. -/
def world : IO (CommandLine.World IO) := do
  return ⟨files, do textOf (← IO.getStdin).readBinToEnd, ← environment⟩

end LeadRouting.Program

/-- Runs the program with the words of the command line. -/
def main (words : List String) : IO UInt32 := do
  let outcome ← LeadRouting.CommandLine.run (← LeadRouting.Program.world) words
  if let some warning := outcome.warning then
    IO.eprintln ("Warning: Failed to load config: " ++ warning)
  IO.print outcome.output
  if let some fault := outcome.fault then
    IO.eprintln ("Error: " ++ fault)
  return outcome.code.toUInt32
