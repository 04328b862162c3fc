import Wordbook.Cli

/-!
# The program

`main` runs the editor on the real file system and its standard streams. Settings come
from the environment; a complaint about an unusable value goes to standard error. Requests
are answered as their lines arrive, so a program on the other end of the pipe can talk to it
one request at a time.
-/

open System

namespace Wordbook.Program

/-- The failure of a system call, by its error number. -/
def osErrorOf : IO.Error → OsError
  | .alreadyExists _ code d => OsError.ofCode code.toNat d
  | .otherError code d => OsError.ofCode code.toNat d
  | .resourceBusy code d => OsError.ofCode code.toNat d
  | .resourceVanished code d => OsError.ofCode code.toNat d
  | .unsupportedOperation code d => OsError.ofCode code.toNat d
  | .hardwareFault code d => OsError.ofCode code.toNat d
  | .unsatisfiedConstraints code d => OsError.ofCode code.toNat d
  | .illegalOperation code d => OsError.ofCode code.toNat d
  | .protocolError code d => OsError.ofCode code.toNat d
  | .timeExpired code d => OsError.ofCode code.toNat d
  | .interrupted _ code d => OsError.ofCode code.toNat d
  | .noFileOrDirectory _ code d => OsError.ofCode code.toNat d
  | .invalidArgument _ code d => OsError.ofCode code.toNat d
  | .permissionDenied _ code d => OsError.ofCode code.toNat d
  | .resourceExhausted _ code d => OsError.ofCode code.toNat d
  | .inappropriateType _ code d => OsError.ofCode code.toNat d
  | .noSuchThing _ code d => OsError.ofCode code.toNat d
  | .unexpectedEof => .uncategorized "unexpected end of file"
  | .userError msg => .uncategorized msg

/-- Runs a file operation, turning its failure into an `OsError`. -/
def attempt {α : Type} (act : IO α) : IO (Except OsError α) := do
  try return .ok (← act) catch e => return .error (osErrorOf e)

instance : Storage IO where
  kindAt p := do
    try
      let md ← FilePath.metadata p
      return some (if md.type == .dir then .dir else .file)
    catch _ => return none
  makeDir p := attempt (IO.FS.createDir p)
  readBytes p := attempt do return (← IO.FS.readBinFile p).toList
  writeBytes p bs := attempt (IO.FS.writeBinFile p ⟨bs.toArray⟩)
  rename src dst := attempt (IO.FS.rename src dst)
  removeFile p := attempt (IO.FS.removeFile p)

/-- Answers one raw line, writing the response; answers whether the session goes on. -/
def answer (stdout : IO.FS.Stream) (s : Session) (line : List UInt8) : IO (Bool × Session) := do
  let (out, s') ← Cli.answerLine s line
  if let some text := out then
    stdout.putStrLn text
    stdout.flush
  return (!s'.closed, s')

/-- Answers the lines of the input as they arrive, until the session closes or the input
ends. -/
partial def serveInput (stdin stdout : IO.FS.Stream) (s : Session) (pending : List UInt8) :
    IO Unit := do
  match Cli.takeLine? pending with
  | some (line, rest) =>
    let (goOn, s') ← answer stdout s (Cli.dropCr line)
    if goOn then serveInput stdin stdout s' rest
  | none =>
    let chunk ← stdin.read 4096
    if chunk.isEmpty then
      if !pending.isEmpty then
        let _ ← answer stdout s pending
    else serveInput stdin stdout s (pending ++ chunk.toList)

end Wordbook.Program

open Wordbook in
/-- Starts the editor on the environment's settings and serves standard input. -/
def main : IO Unit := do
  let dir ← IO.getEnv Config.dirVariable
  let profile ← IO.getEnv Config.profileVariable
  let level ← IO.getEnv Config.logVariable
  let lookup := fun (name : String) =>
    if name = Config.dirVariable then dir
    else if name = Config.profileVariable then profile
    else if name = Config.logVariable then level
    else none
  for complaint in Config.complaints lookup do
    IO.eprintln s!"[config] {complaint}"
  let cfg := Config.ofLookup lookup
  let workDir := (← IO.currentDir).toString
  let programDir := (← IO.appDir).toString
  let s ← Cli.openSession cfg (some workDir) (some programDir)
  Program.serveInput (← IO.getStdin) (← IO.getStdout) s []
