import HintLine.Path

/-!
The files that a run of the program can see: some files with their bytes, some directories, and the directory
that the program works in. Going along a path needs a directory at every step but the last.
-/

set_option autoImplicit false

namespace HintLine

/-- Why a path leads nowhere. No path can hold the character that ends paths. -/
inductive FileError where
  | notFound (path : String)
  | notDirectory (path : String)
  | isDirectory (path : String)
  | inTheWay (path : String)
  | nameTooLong (path : String)
  | endless
  deriving DecidableEq, Repr

/-- The text of the error, with its number. -/
def FileError.message : FileError → String
  | notFound path => s!"[Errno 2] No such file or directory: {Text.Quoted.quoted path}"
  | notDirectory path => s!"[Errno 20] Not a directory: {Text.Quoted.quoted path}"
  | isDirectory path => s!"[Errno 21] Is a directory: {Text.Quoted.quoted path}"
  | inTheWay path => s!"[Errno 17] File exists: {Text.Quoted.quoted path}"
  | nameTooLong path => s!"[Errno 36] File name too long: {Text.Quoted.quoted path}"
  | endless => "embedded null byte"

/-- Files and directories by their parts from the root, and the parts of the working directory. -/
structure Files where
  files : List (List String × List UInt8)
  directories : List (List String)
  cwd : List String

namespace Files

/-- What stands at a place. -/
inductive Entry where
  | file (bytes : List UInt8)
  | directory
  deriving Repr

/-- What stands at a place given by its parts. A place above a file or a directory is a directory. -/
def entry? (fs : Files) (place : List String) : Option Entry :=
  match fs.files.lookup place with
  | some bytes => some (.file bytes)
  | none =>
    if place.isPrefixOf fs.cwd || (fs.directories.any place.isPrefixOf) ||
        fs.files.any (fun f => place.isPrefixOf f.1) then some .directory
    else none

/-- Why a step leads nowhere. -/
inductive Obstacle where
  | missing
  | notDirectory
  | nameTooLong
  deriving DecidableEq, Repr

def Obstacle.error (path : String) : Obstacle → FileError
  | missing => .notFound path
  | notDirectory => .notDirectory path
  | nameTooLong => .nameTooLong path

def maxName : Nat := 255

def maxPath : Nat := 4095

/-- Whether a text holds the character that ends paths. -/
def isEndless (s : String) : Bool := s.contains '\x00'

def walk (fs : Files) : (place : List String) → (steps : List String) → Except Obstacle (List String)
  | place, [] => .ok place
  | place, step :: steps =>
    match fs.entry? place with
    | none => .error .missing
    | some (.file _) => .error .notDirectory
    | some .directory =>
      if step = ".." then fs.walk place.dropLast steps
      else if maxName < step.utf8ByteSize then .error .nameTooLong
      else
        match fs.entry? (place ++ [step]) with
        | none => .error .missing
        | some _ => fs.walk (place ++ [step]) steps

def locate (fs : Files) (p : Path) : Except Obstacle (List String) :=
  if maxPath < p.text.utf8ByteSize then .error .nameTooLong
  else
    match p.start with
    | .here => fs.walk fs.cwd p.parts
    | _ => fs.walk [] p.parts

def find (fs : Files) (p : Path) : Except FileError (List String) :=
  if isEndless p.text then .error .endless else (fs.locate p).mapError (·.error p.text)

def read (fs : Files) (p : Path) : Except FileError (List UInt8) := do
  match fs.entry? (← fs.find p) with
  | none => .error (.notFound p.text)
  | some .directory => .error (.isDirectory p.text)
  | some (.file bytes) => .ok bytes

/-- The directory at a path, as a place. -/
def enter (fs : Files) (p : Path) : Except FileError (List String) := do
  let place ← fs.find p
  match fs.entry? place with
  | none => .error (.notFound p.text)
  | some (.file _) => .error (.notDirectory p.text)
  | some .directory => .ok place

def pathOf (place : List String) : String := (Path.mk .root place).text

def checkName (place : List String) (name : String) : Except FileError Unit :=
  if isEndless name then .error .endless
  else if maxName < name.utf8ByteSize then .error (.nameTooLong (pathOf (place ++ [name])))
  else .ok ()

/-- Checks that a file can be written at steps from a place. Directories on the way are made where they are
missing, so that only a file can be in the way. -/
def checkWriting (fs : Files) : (place : List String) → (steps : List String) → Except FileError Unit
  | place, [] => .error (.isDirectory (pathOf place))
  | place, [name] => do
    checkName place name
    match fs.entry? (place ++ [name]) with
    | some .directory => .error (.isDirectory (pathOf (place ++ [name])))
    | _ => .ok ()
  | place, step :: next :: steps => do
    checkName place step
    match fs.entry? (place ++ [step]), steps with
    | some (.file _), [] => .error (.inTheWay (pathOf (place ++ [step])))
    | some (.file _), _ => do
      checkName (place ++ [step]) next
      .error (.notDirectory (pathOf (place ++ [step, next])))
    | _, _ => fs.checkWriting (place ++ [step]) (next :: steps)

/-- The path from the root of a file that can be written. Pairs of dots are settled before anything is looked up. -/
def writable (fs : Files) (p : Path) : Except FileError String :=
  let p := p.absolute fs.cwd
  let place := Path.settled p.parts
  (fs.checkWriting [] place).map fun _ => (Path.mk p.start place).text

/-- What stands where a text points. A text that ends in a slash or in a slash and a dot points at a
directory. -/
def look? (fs : Files) (s : String) : Option Entry :=
  let needsDirectory := s.endsWith "/" || s.endsWith "/."
  if s = "" then none
  else
    match fs.locate (Path.ofString s) with
    | .error _ => none
    | .ok place =>
      match fs.entry? place with
      | some (.file bytes) => if needsDirectory then none else some (.file bytes)
      | e => e

end Files

end HintLine
