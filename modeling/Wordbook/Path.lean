/-!
# Path text

Paths are texts with `/` between components, as the editor shows them. A path may start
with the root `/` or with `.`, the current directory; empty components and `.` components
after the start name nothing.

* `Path.join base name` appends a component: `name` alone when `base` is empty, without a
  second separator when `base` already ends in one. So `"."` and `"a"` give `"./a"`, and `""`
  and `"a"` give `"a"`.
* `Path.parent?` is the path without its last component and without the separators and `.`
  components that end it: `"dict/a.txt"` gives `"dict"`, `"a.txt"` gives `""`, `"./a.txt"`
  gives `"."`; the root and the empty path have none.
* `Path.fileName?` is the last component, unless it is `..` or there is none.
-/

namespace Wordbook.Path

/-- Whether a path starts at the root. -/
def isAbsolute (p : String) : Bool := p.toList.head? == some '/'

/-- The path with one more component; an absolute `name` replaces the path. -/
def join (base name : String) : String :=
  if isAbsolute name || base.isEmpty then name
  else if base.toList.getLast? == some '/' then base ++ name
  else base ++ "/" ++ name

/-- How many characters start a path before its components: the root, or a leading `.`
that stands alone or before a separator. -/
def startLength (cs : List Char) : Nat :=
  match cs with
  | '/' :: _ => 1
  | ['.'] => 1
  | '.' :: '/' :: _ => 1
  | _ => 0

/-- A reversed path without its trailing separators and `.` components, keeping at least
`keep` characters. -/
def trimEndRev (keep : Nat) : List Char → List Char
  | '/' :: rest => if rest.length ≥ keep then trimEndRev keep rest else '/' :: rest
  | '.' :: '/' :: rest =>
    if rest.length + 1 ≥ keep then trimEndRev keep ('/' :: rest) else '.' :: '/' :: rest
  | rest => rest

/-- A reversed path without the characters of its last component, keeping at least `keep`
characters. -/
def dropComponentRev (keep : Nat) : List Char → List Char
  | c :: rest => if c ≠ '/' ∧ rest.length ≥ keep then dropComponentRev keep rest else c :: rest
  | [] => []

/-- The path without its last component, if it has one. -/
def parent? (p : String) : Option String :=
  let cs := p.toList
  let keep := startLength cs
  let trimmed := trimEndRev keep cs.reverse
  if trimmed.length = keep then
    if keep = 0 || isAbsolute p then none else some ""
  else some (String.ofList (trimEndRev keep (dropComponentRev keep trimmed)).reverse)

/-- The last component of a path, unless it is `..` or there is none. -/
def fileName? (p : String) : Option String :=
  let cs := p.toList
  let keep := startLength cs
  let trimmed := trimEndRev keep cs.reverse
  if trimmed.length = keep then none
  else
    let name := String.ofList (trimmed.takeWhile (· ≠ '/')).reverse
    if name = ".." then none else some name

/-- The path with its last component replaced by `name`; a path without a last component
gets `name` appended. -/
def withFileName (p name : String) : String :=
  match fileName? p, parent? p with
  | some _, some dir => join dir name
  | _, _ => join p name

/-- The pieces between the separators of a path, empty ones included: `n` separators give
`n + 1` pieces. -/
def pieces (p : String) : List String := (p.toList.splitOn '/').map String.ofList

/-- One piece of a path read after the components before it: an empty piece and `.` name
nothing, `..` takes back the last component, and any other piece is one more component. -/
def stepComponent (acc : List String) (c : String) : List String :=
  if c = "" ∨ c = "." then acc else if c = ".." then acc.dropLast else acc ++ [c]

/-- The components a path names, in order: empty and `.` components dropped, `..` taking
back the one before it. -/
def components (p : String) : List String := (pieces p).foldl stepComponent []

/-- Whether the last component the system sees, separators at the end aside, is `.` or `..`:
such a path names a directory that can only already exist, never one to create. -/
def endsInDots (p : String) : Bool :=
  match ((pieces p).filter (· ≠ "")).getLast? with
  | some "." | some ".." => true
  | _ => false

example :
    parent? "dict/dictionary_en.txt" = some "dict" ∧ parent? "dictionary_en.txt" = some "" ∧
      parent? "./dictionary_en.txt" = some "." ∧ parent? "/" = none ∧ parent? "" = none ∧
      parent? "a/b/./" = some "a" ∧ parent? "/x" = some "/" := by
  decide

example :
    join "." "a" = "./a" ∧ join "" "a" = "a" ∧ join "d/" "a" = "d/a" ∧ join "d" "a" = "d/a" := by
  decide

end Wordbook.Path
