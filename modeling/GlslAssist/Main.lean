import GlslAssist.CommandLine.Report

/-!
# The program

Reads the files that a command looks at, runs it, and prints its report. A client is served as its
messages arrive.
-/

namespace GlslAssist.CommandLine

def problemOf : IO.Error → ReadProblem
  | .noFileOrDirectory .. => .missing
  | .inappropriateType _ code _ =>
    if code = 21 then .isDirectory else .notDirectory
  | e => .other (toString e)

/-- A read fails with a problem, never with an exception. -/
def readPath (p : Path) : IO (Except ReadProblem (List UInt8)) := do
  try
    return .ok (← IO.FS.readBinFile p.text).toList
  catch e =>
    return .error (problemOf e)

def printNotes (notes : List String) : IO Unit := do
  for note in notes do
    IO.eprintln note

/-- Answers what arrives until the stream or the session ends. -/
partial def talk (filter : Log.Filter) (input output : IO.FS.Stream) (c : Connection) :
    IO Unit := do
  let bytes ← input.read 4096
  let outcome := if bytes.isEmpty then c.close else c.receive bytes.toList
  printNotes ((outcome.log.filter filter.admits).map Record.printed)
  for v in outcome.written do
    output.putStr (Server.Frame.enclose v.compact)
  output.flush
  if outcome.connection.isOpen then talk filter input output outcome.connection

def printReport (r : Report) : IO UInt32 := do
  printNotes r.notes
  IO.print r.output
  return if r.failure.isSome then 1 else 0

/-- The variable that holds a log filter from outside. -/
def filterVariable : String := "RUST_LOG"

/-- Serves a client, once the settings are known. -/
def serveClient (s : Surroundings) (i : Invocation) (outer : Option String) : IO UInt32 := do
  match load s i.settingsFile with
  | .error failure => printReport ⟨"", [], [], some failure⟩
  | .ok loaded =>
    let (filter, warnings) := filterOf outer i.verbose loaded.settings
    let first := [loadedRecord loaded, registryRecord loaded.settings].filter filter.admits
    printNotes (warnings ++ first.map Record.printed)
    talk filter (← IO.getStdin) (← IO.getStdout) (.start loaded.settings)
    return 0

def runProgram (arguments : List String) : IO UInt32 := do
  match ofArguments arguments with
  | .error .help => IO.print helpText; return 0
  | .error .version => IO.print versionText; return 0
  | .error (.wrong e) => IO.eprintln ("error: " ++ Text.plain e.message); return 2
  | .ok i =>
    let directory := Path.ofText (← IO.currentDir).toString
    let known ← (pathsOf directory i).mapM fun p => return (p, ← readPath p)
    let s : Surroundings := ⟨.ofKnown known, directory, []⟩
    let outer ← IO.getEnv filterVariable
    match i.command with
    | .lsp => serveClient s i outer
    | _ => printReport (run s i outer)

end GlslAssist.CommandLine

def main (arguments : List String) : IO UInt32 :=
  GlslAssist.CommandLine.runProgram arguments
