import Calculator.CommandLine.Run

/-!
# The program

The command line on the files and the terminal at hand.  The part of the files that the words of the
command line name is read before the run, and what the run changes is written after it.

## Main definitions

* `Program.storeFor words`: the files and directories that some words name
* `main`: the program
-/

namespace Calculator.Program

open CommandLine

/-- The path of a place. -/
def placeText : Location → String
  | "/" :: names => "/" ++ "/".intercalate names
  | names => "/".intercalate names

/-- What stands at a path. -/
def nodeHere? (path : String) : IO (Option Node) := do
  try
    let found ← IO.FS.realPath path
    if ← found.isDir then return some .directory
    return some (.file (← IO.FS.readBinFile found).toList)
  catch _ => return none

/-- The texts in a word that can be paths: the word, and what follows an equals sign in it. -/
def pathsIn (word : String) : List String :=
  word :: (splitValue word).2.toList

/-- The files and directories that some words name, with those on the way to them. -/
def storeFor (words : List String) : IO FileStore := do
  let places := (words.flatMap pathsIn).flatMap fun text => FileStore.placesOf (.ofString text)
  let nodes ← places.eraseDups.filterMapM fun place => do
    return (← nodeHere? (placeText place)).map (place, ·)
  return ⟨nodes⟩

/-- Makes a node. -/
def putNode (place : Location) : Node → IO Unit
  | .directory => IO.FS.createDirAll (placeText place)
  | .file bytes => IO.FS.writeBinFile (placeText place) ⟨bytes.toArray⟩

/-- Shows what a run comes to and writes the files that it changed. -/
def report (store : FileStore) (outcome : Outcome) : IO UInt32 := do
  (store.changesSince outcome.store).forM fun (place, node) => putNode place node
  IO.print outcome.output
  if let some e := outcome.escaped then IO.eprintln e.message
  return outcome.exitCode.toUInt32

/-- Runs lines of the interactive loop, with a prompt after each; tells with the session whether the
loop goes on. -/
def runLines (s : Session) : List String → IO (Except TableError (Session × Bool))
  | [] => return .ok (s, true)
  | line :: lines => do
    match Repl.step s line with
    | .quits => return .ok (s, false)
    | .breaks e => return .error e
    | .shows shown s =>
      IO.print (shown ++ Repl.prompt)
      runLines s lines

/-- Runs the interactive loop until a line or the end of the input ends it. -/
partial def converse (input : IO.FS.Stream) (s : Session) : IO (Except TableError Session) := do
  (← IO.getStdout).flush
  let line ← input.getLine
  if line.isEmpty then
    IO.println ""
    return .ok s
  else
    match ← runLines s (Repl.inputLines line.toList) with
    | .ok (s, true) => converse input s
    | .ok (s, false) => return .ok s
    | .error e => return .error e

/-- Runs the interactive loop on the terminal. -/
def interactHere (store : FileStore) (source : VariableSource) (saveTo : Option String) :
    IO UInt32 := do
  match buildTable store source with
  | .error stop => report store (.ofResult store (.error stop))
  | .ok t =>
    IO.print (Repl.banner ++ Repl.prompt)
    match ← converse (← IO.getStdin) { table := t } with
    | .ok s => report store (endSession store "" s.table saveTo)
    | .error e => report store ⟨1, "", store, some (.table e)⟩

end Calculator.Program

open Calculator CommandLine Program in
/-- Runs a command line. -/
def main (words : List String) : IO UInt32 := do
  let store ← storeFor words
  match readInvocation store words with
  | .ok ⟨_, .interact source saveTo⟩ => interactHere store source saveTo
  | _ => report store (run store words "")
