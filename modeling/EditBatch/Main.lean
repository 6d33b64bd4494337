import EditBatch.CommandLine.Program

/-! The executable. It has no network transport, so the edits of a batch fail for want of a
connection; a dry run and the export need none. -/

set_option autoImplicit false

namespace EditBatch.Executable

open EditBatch.CommandLine

def lookAt (name : String) : IO FileState := do
  let path := (← IO.currentDir) / name
  if ← path.isDir then return .directory
  try
    return .file (← IO.FS.readFile path)
  catch _ => return .missing

def lookAtAll : List String → IO (List (String × FileState))
  | [] => return []
  | name :: rest => do
    let state ← lookAt name
    return (name, state) :: (← lookAtAll rest)

def environment : List String → IO (List (String × String))
  | [] => return []
  | name :: rest => do
    let others ← environment rest
    match ← IO.getEnv (Settings.variableName name) with
    | some value => return (Settings.variableName name, value) :: others
    | none => return others

def unreachable : Http.Server Unit where
  answer _ _ _ := (⟨.error (.noResponse "no connection"), 0⟩, ())

def filesFor (arguments : List String) : List String :=
  match Wish.read arguments with
  | .ok wish => wish.fileNames
  | .error _ => []

def breakdownText : Breakdown → String
  | .rejectedSettings names => "Invalid settings: " ++ ", ".intercalate names
  | .unknownLogLevel name => "Unknown log level: " ++ name
  | .impossibleFileName => "A file name holds a null character."

def run (arguments : List String) : IO UInt32 := do
  let found ← lookAtAll (filesFor arguments)
  let surroundings : Surroundings :=
    { environment := ← environment Settings.names
      files := fun name => (found.lookup name).getD .missing }
  let (transcript, _) := program ⟨surroundings, unreachable, none⟩ arguments ()
  IO.print transcript.output
  IO.eprint transcript.errors
  match transcript.ending with
  | .exit code => return code.toUInt32
  | .breakOff reason =>
    IO.eprintln (breakdownText reason)
    return 1

end EditBatch.Executable

def main (arguments : List String) : IO UInt32 := EditBatch.Executable.run arguments
