import PromptWeave.Command.Run

/-! The command line: reads what a run depends on, runs the command, and writes the result. -/

namespace PromptWeave

namespace Main

open Command

/-- The number of an error of the system, which may come with a minus sign. -/
def errorNumber (code : UInt32) : UInt32 :=
  min code (0 - code)

/-- The fault that an error of the system stands for. -/
def faultOf : IO.Error → ReadFault
  | .noFileOrDirectory .. => .missing
  | .inappropriateType _ code _ =>
    if errorNumber code = 20 then .notDirectory else .isDirectory
  | e@(.invalidArgument _ code _) =>
    if errorNumber code = 36 then .nameTooLong else .other (toString e).toList
  | e => .other (toString e).toList

/-- The text of bytes. -/
def textOf (bytes : ByteArray) : Except ReadFault Text :=
  match String.fromUTF8? bytes with
  | some s => .ok s.toList
  | none => .error .notUtf8

/-- Reads a file. -/
def readFile (path : String) : IO (Except ReadFault Text) := do
  try
    return textOf (← IO.FS.readBinFile path)
  catch e => return .error (faultOf e)

/-- Reads the standard input to its end. -/
partial def readInput (stream : IO.FS.Stream) (bytes : ByteArray) : IO ByteArray := do
  let more ← stream.read 65536
  if more.isEmpty then return bytes else readInput stream (bytes ++ more)

/-- The directory of the configuration file. -/
def configDirectory? : IO (Option String) := do
  match ← IO.getEnv "XDG_CONFIG_HOME", ← IO.getEnv "HOME" with
  | some base, home =>
    if base.startsWith "/" then return some (base ++ "/prompt_chain")
    else return home.map (· ++ "/.config/prompt_chain")
  | none, some home => return some (home ++ "/.config/prompt_chain")
  | none, none => return none

/-- The configuration file. -/
def readConfig (directory? : Option String) : IO ConfigFile := do
  match directory? with
  | none => return { writable := false }
  | some directory =>
    match ← readFile (directory ++ "/config.toml") with
    | .ok text => return { content := some text }
    | .error _ => return {}

/-- Writes the configuration file, if it can be written. -/
def saveConfig (directory? : Option String) (text : Text) : IO Unit := do
  match directory? with
  | none => return
  | some directory =>
    try
      IO.FS.createDirAll directory
      IO.FS.writeFile (directory ++ "/config.toml") (String.ofList text)
    catch e => IO.eprintln s!"Failed to write config file: {e}"

end Main

end PromptWeave

open PromptWeave PromptWeave.Command in
/-- Runs the command with the arguments of the program. -/
def main (arguments : List String) : IO UInt32 := do
  let words := arguments.map String.toList
  let parsed := Arguments.parse words
  let path? := parsed.toOption.bind Arguments.requestPath
  let needsRequest := (parsed.toOption.map fun a => !a.list).getD false
  let file ← match path? with
    | some path =>
      if needsRequest then Main.readFile (String.ofList path) else pure (.error .missing)
    | none => pure (.error .missing)
  let input ←
    if needsRequest ∧ path?.isNone then do
      pure (Main.textOf (← Main.readInput (← IO.getStdin) .empty))
    else pure (.ok [])
  let directory? ← Main.configDirectory?
  let result := run {
    arguments := words
    input
    file := fun _ => file
    config := ← Main.readConfig directory?
    freshSeed := ← IO.rand 0 (UInt64.size - 1) }
  if let some text := result.saved then Main.saveConfig directory? text
  IO.print (String.ofList result.output)
  match result.ending with
  | .failed failure => IO.eprintln (String.ofList failure.report)
  | .misused e => if e.status ≠ 0 then IO.eprintln "error: invalid arguments; try --help"
  | .done => pure ()
  return UInt32.ofNat result.ending.status
