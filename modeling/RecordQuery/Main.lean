/-
This file is the program: it reads the files that a command line names and prints the response.
-/

import RecordQuery.CommandLine.Response

namespace RecordQuery

open CommandLine

/-- The content of a file, if it can be read. -/
def readContent (file : String) : IO (Option String) := do
  try
    return some (← IO.FS.readFile file)
  catch _ => return none

/-- The contents of the files that a command line names. -/
def readContents (commandLine : List String) : IO (String → Option String) := do
  match readArguments commandLine with
  | .error _ => return fun _ => none
  | .ok arguments =>
    let settings ← readContent arguments.config
    let catalog ← readContent arguments.catalog
    return fun file => if file = arguments.config then settings else catalog

/-- Answers a command line: prints the response and gives its exit status. -/
def runProgram (commandLine : List String) : IO UInt32 := do
  let contents ← readContents commandLine
  let response := respond contents commandLine
  IO.print response.output
  if let some complaint := response.complaint then IO.eprintln complaint
  return response.status.toUInt32

end RecordQuery

/-- The program. -/
def main (commandLine : List String) : IO UInt32 :=
  RecordQuery.runProgram commandLine
