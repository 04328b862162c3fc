import Wordbook.Config
import Wordbook.Protocol.Handle

/-!
# The editor as a command-line program

The program serves the request protocol on its standard streams: one request per input
line, one response per output line.

On start it reads its settings (`Config.ofLookup`) and picks the dictionary directory: the
configured one, else the working directory if it already holds a dictionary file, else the
program's own directory, else the working directory. That directory and those above it are
built; if that fails the program works in `.` instead. The session starts on the configured
language and reads its file once; a failed read leaves it empty.

Input is split into lines at LF, a CR before the LF dropped. A line that is not UTF-8, or is
blank, is skipped. The program stops after the response that closes the session, or at the
end of the input.
-/

namespace Wordbook.Cli

variable {m : Type → Type} [Monad m] [Storage m]

/-- Whether a directory holds the file of some profile. -/
def hasKnownFile (dir : String) : m Bool :=
  Profile.all.anyM fun p => Storage.isFile (Path.join dir p.filename)

/-- The dictionary directory before it is built: the configured one, else the working
directory if it holds a dictionary file, else the program's directory, else the working
directory, else `.`. -/
def chooseBaseDir (cfg : Config) (workDir programDir : Option String) : m String := do
  if let some dir := cfg.baseDir then return dir
  if let some dir := workDir then
    if ← hasKnownFile dir then return dir
  if let some dir := programDir then return dir
  return workDir.getD "."

/-- Whether the dictionary directory would be the program's own directory. -/
def usesProgramDir (cfg : Config) (workDir : Option String) : m Bool := do
  if cfg.baseDir.isSome then return false
  match workDir with
  | some dir => return !(← hasKnownFile dir)
  | none => return true

/-- The dictionary directory, built; `.` when it cannot be built. -/
def baseDir (cfg : Config) (workDir programDir : Option String) : m String := do
  let dir ← chooseBaseDir cfg workDir programDir
  match ← Sync.ensureDir dir with
  | .ok () => return dir
  | .error _ => return "."

/-- The session the program starts with: on the configured language, its file read once. -/
def openSession (cfg : Config) (workDir programDir : Option String) : m Session := do
  let dir ← baseDir cfg workDir programDir
  let (_, s) ← (Session.start dir cfg.profile).reload
  return s

/-- The first line of the input that an LF ends, without the LF, and the input after it;
`none` when no LF is left. -/
def takeLine? : List UInt8 → Option (List UInt8 × List UInt8)
  | [] => none
  | b :: rest =>
    if b = 0x0A then some ([], rest) else (takeLine? rest).map fun r => (b :: r.1, r.2)

/-- A line without the CR that ended it before the LF. -/
def dropCr (line : List UInt8) : List UInt8 :=
  if line.getLast? = some 0x0D then line.dropLast else line

/-- The raw lines of the input: split at LF, with the LF and a CR before it dropped; an
unterminated last piece is a line too, an empty one is not. -/
def rawLines (input : List UInt8) : List (List UInt8) :=
  let rec go : Nat → List UInt8 → List (List UInt8)
    | 0, _ => []
    | fuel + 1, rest =>
      match takeLine? rest with
      | some (line, after) => dropCr line :: go fuel after
      | none => if rest.isEmpty then [] else [rest]
  go (input.length + 1) input

/-- The request a raw line holds: the line if it is UTF-8 and not blank. -/
def requestOf? (line : List UInt8) : Option String :=
  match Encoding.Utf8.decode? line with
  | some text => if Text.isBlankText text then none else some text
  | none => none

/-- The request lines of the input: UTF-8 lines that are not blank. -/
def requestLines (input : List UInt8) : List String := (rawLines input).filterMap requestOf?

/-- The response to one raw line, `none` for a line that holds no request. -/
def answerLine (s : Session) (line : List UInt8) : m (Option String × Session) := do
  match requestOf? line with
  | none => return (none, s)
  | some text =>
    let (r, s') ← Protocol.handle s text
    return (some r.render, s')

/-- Answers lines until the session closes: the response lines and the final session. -/
def serve (s : Session) : List String → m (List String × Session)
  | [] => return ([], s)
  | line :: rest => do
    let (r, s') ← Protocol.handle s line
    if s'.closed then return ([r.render], s')
    let (more, s'') ← serve s' rest
    return (r.render :: more, s'')

/-- The output lines of a whole run on the given input. -/
def run (cfg : Config) (workDir programDir : Option String) (input : List UInt8) :
    m (List String) := do
  let s ← openSession cfg workDir programDir
  let (out, _) ← serve s (requestLines input)
  return out

end Wordbook.Cli
