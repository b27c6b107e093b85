import BellmanGrid.CommandLine.Run

/-!
The program: the command line over the files of the current directory.

The configuration is read before the command runs, and what the command leaves behind is written
after it.  Figures are not painted here.
-/

namespace BellmanGrid

/-- The document that the arguments name, if it can be read. -/
def readDocuments (arguments : List String) : IO FileTree := do
  match Settings.ofArguments arguments with
  | .ok { config := some path, .. } =>
      try return FileTree.ofDocuments [(path, ← IO.FS.readFile path)]
      catch _ => return ⟨[]⟩
  | _ => return ⟨[]⟩

/-- Writes the directories and documents that a command has added, each text through `finish`. -/
def writeItems (finish : String → String) (before after : FileTree) : IO Unit :=
  for (place, item) in after.items do
    if (before.items.lookup place).isNone then
      match item with
      | .directory => IO.FS.createDirAll place.text
      | .document content => IO.FS.writeFile place.text (finish content)
      | .drawing _ => pure ()

/-- The text that stands for the time until it is known; no path and no text of a command has it. -/
def pendingTime : String :=
  "\x00"

def secondsText (milliseconds : Nat) : String :=
  Decimal.fixed 2 (nearest false milliseconds 1000)

end BellmanGrid

open BellmanGrid in
/-- Runs the command and exits with zero if it has come to its end. -/
def main (arguments : List String) : IO UInt32 := do
  let start ← IO.monoMsNow
  let files ← readDocuments arguments
  let (outcome, session) := Command.outcome pendingTime arguments files
  let elapsed := secondsText ((← IO.monoMsNow) - start)
  let finish (text : String) : String := text.replace pendingTime elapsed
  writeItems finish files session.files
  IO.print (finish session.output)
  IO.eprint session.diagnostics
  match outcome with
  | .ok () => return 0
  | .error (.exit code) => return code.toUInt32
  | .error error => do
      IO.eprintln (message error)
      return 1
