import Turnstile.Text.Utf8

/-!
A tree of files below a working directory, and reading one of them. Outside the working directory
there are directories above it and nothing else. Links and permissions are not covered.
-/
namespace Turnstile

/-- A file system, as the regular files and directories at their paths. A path is its components;
the working directory is the empty one. -/
structure Files where
  files : List (List String × List UInt8) := []
  directories : List (List String) := []

namespace Files

inductive ReadError where
  | missing (path : String)
  | notDirectory (path : String)
  | isDirectory
  | tooLong (path : String)

def ReadError.message : ReadError → String
  | .missing path => "ENOENT: no such file or directory, open '" ++ path ++ "'"
  | .notDirectory path => "ENOTDIR: not a directory, open '" ++ path ++ "'"
  | .isDirectory => "EISDIR: illegal operation on a directory, read"
  | .tooLong path => "ENAMETOOLONG: name too long, open '" ++ path ++ "'"

def maxName : Nat := 255

def maxPath : Nat := 4095

def bytesIn (s : String) : Nat := (Text.Utf8.encode s).length

inductive Entry where
  | file (bytes : List UInt8)
  | directory

def entry? (fs : Files) (path : List String) : Option Entry :=
  if path.isEmpty then some .directory
  else match fs.files.lookup path with
    | some bytes => some (.file bytes)
    | none => if fs.directories.contains path then some .directory else none

def components (path : String) : List String :=
  (path.splitOn "/").filter fun c => !c.isEmpty

def walkOutside (path : String) (rest : List String) : Except ReadError Entry :=
  if rest.all fun next => next = "." || next = ".." then .ok .directory else .error (.missing path)

def walk (fs : Files) (path : String) : List String → List String → Except ReadError Entry
  | here, [] =>
    match fs.entry? here with
    | some e => .ok e
    | none => .error (.missing path)
  | here, next :: rest =>
    match fs.entry? here with
    | some .directory =>
      if next = "." then walk fs path here rest
      else if next = ".." then
        if here.isEmpty then walkOutside path rest else walk fs path here.dropLast rest
      else if bytesIn next > maxName then .error (.tooLong path)
      else walk fs path (here ++ [next]) rest
    | some (.file _) => .error (.notDirectory path)
    | none => .error (.missing path)

def entryAt (fs : Files) (path : String) : Except ReadError Entry :=
  if path.isEmpty then .error (.missing path)
  else if bytesIn path > maxPath then .error (.tooLong path)
  else if path.toList.head? = some '/' then walkOutside path (components path)
  else fs.walk path [] (components path)

def read (fs : Files) (path : String) : Except ReadError (List UInt8) :=
  match fs.entryAt path with
  | .error e => .error e
  | .ok .directory => .error .isDirectory
  | .ok (.file bytes) =>
    if path.toList.getLast? = some '/' then .error (.notDirectory path) else .ok bytes

/-- The components of a path that is written to, without those that stay in place. -/
def location (path : String) : List String :=
  (components path).filter (· ≠ ".")

def parents (path : List String) : List (List String) :=
  (List.range path.length).map fun n => path.take n

def addDirectory (fs : Files) (path : String) : Files :=
  let here := location path
  { fs with directories := here :: parents here ++ fs.directories }

/-- Writes a file; the directories above it are made. -/
def write (fs : Files) (path : String) (bytes : List UInt8) : Files :=
  let here := location path
  { files := (here, bytes) :: fs.files.filter (·.1 ≠ here)
    directories := parents here ++ fs.directories }

def remove (fs : Files) (path : String) : Files :=
  let here := location path
  { files := fs.files.filter fun f => !here.isPrefixOf f.1
    directories := fs.directories.filter fun d => !here.isPrefixOf d }

end Files
end Turnstile
