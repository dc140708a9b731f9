import ViewTemplate.Text.Search

/-!
A file system as far as views need it: directories, files with their bytes and modification times,
and a clock that stamps what is written. Paths are texts with slashes; those that leave the working
directory lead to an outside of which nothing else is known.
-/

namespace ViewTemplate

open ViewTemplate.Text

/-- What a path leads to. -/
inductive Node where
  | directory
  | file (content : ByteArray) (modified : Int)

/-- A place in the file system, by the names from the working directory down, or from the root of
all directories down. -/
structure Location where
  outside : Bool
  names : List String
  deriving DecidableEq

namespace Location

def child (location : Location) (name : String) : Location :=
  ⟨location.outside, location.names ++ [name]⟩

/-- The directory around a place. The one around the working directory is outside. -/
def parent (location : Location) : Location :=
  if location.names = [] then ⟨true, []⟩ else ⟨location.outside, location.names.dropLast⟩

end Location

/-- The nodes by their places, and the time. -/
structure FileSystem where
  nodes : List (Location × Node)
  clock : Int

namespace FileSystem

/-- Why an operation on files failed. -/
inductive Fault where
  | notFound
  | alreadyExists
  | notDirectory
  | isDirectory
  | nameTooLong
  | nulInPath
  | invalidText
  deriving DecidableEq

def Fault.message : Fault → String
  | .notFound => "No such file or directory (os error 2)"
  | .alreadyExists => "File exists (os error 17)"
  | .notDirectory => "Not a directory (os error 20)"
  | .isDirectory => "Is a directory (os error 21)"
  | .nameTooLong => "File name too long (os error 36)"
  | .nulInPath => "file name contained an unexpected NUL byte"
  | .invalidText => "stream did not contain valid UTF-8"

def empty (clock : Int) : FileSystem :=
  ⟨[], clock⟩

/-! ## Paths -/

/-- The names between the slashes of a path, empty ones included. -/
def splitPath : List Char → List (List Char)
  | [] => [[]]
  | character :: path =>
      if character = '/' then [] :: splitPath path
      else
        match splitPath path with
        | [] => [[character]]
        | name :: names => (character :: name) :: names

/-- Joins a directory with a path: an absolute path stands for itself. -/
def join (directory path : String) : String :=
  if path.toList.head? = some '/' ∨ directory = "" then path
  else if directory.toList.getLast? = some '/' then directory ++ path
  else directory ++ "/" ++ path

/-- The greatest number of bytes of a name. -/
def nameLimit : Nat := 255

/-- The number of bytes from which on a path is too long. -/
def pathLimit : Nat := 4096

/-- The node at a place. The two topmost places are directories. -/
def node? (files : FileSystem) (location : Location) : Option Node :=
  if location.names = [] then some .directory else files.nodes.lookup location

/-- Follows the names of a path from a place on. Each must be looked up in a directory; the last
need not exist. -/
def follow (files : FileSystem) (location : Location) : List (List Char) → Except Fault Location
  | [] => .ok location
  | name :: names =>
      match files.node? location with
      | none => .error .notFound
      | some (.file _ _) => .error .notDirectory
      | some .directory =>
          if name = [] ∨ name = ['.'] then files.follow location names
          else if name = ['.', '.'] then files.follow location.parent names
          else if nameLimit < byteLength name then .error .nameTooLong
          else files.follow (location.child (String.ofList name)) names

/-- The fault of a path by itself, wherever it leads. -/
def pathFault? (path : List Char) : Option Fault :=
  if Char.ofNat 0 ∈ path then some .nulInPath
  else if path = [] then some .notFound
  else if pathLimit ≤ byteLength path then some .nameTooLong
  else none

/-- Where the names of a path begin: an absolute path at the root of all directories. -/
def origin (path : List Char) : Location :=
  ⟨path.head? == some '/', []⟩

def locate (files : FileSystem) (path : String) : Except Fault Location :=
  match pathFault? path.toList with
  | some fault => .error fault
  | none => files.follow (origin path.toList) (splitPath path.toList)

/-! ## Reading -/

def find (files : FileSystem) (path : String) : Except Fault Node :=
  match files.locate path with
  | .error fault => .error fault
  | .ok location =>
      match files.node? location with
      | some node => .ok node
      | none => .error .notFound

def isFile (files : FileSystem) (path : String) : Bool :=
  match files.find path with
  | .ok (.file _ _) => true
  | _ => false

/-- The time of the last change at a path. A directory counts as changed just now. -/
def modified? (files : FileSystem) (path : String) : Option Int :=
  match files.find path with
  | .ok (.file _ modified) => some modified
  | .ok .directory => some files.clock
  | .error _ => none

/-- The text of the file at a path, which must be valid UTF-8. -/
def readText (files : FileSystem) (path : String) : Except Fault String :=
  match files.find path with
  | .error fault => .error fault
  | .ok .directory => .error .isDirectory
  | .ok (.file content _) =>
      match String.fromUTF8? content with
      | some text => .ok text
      | none => .error .invalidText

/-! ## Writing -/

def put (files : FileSystem) (location : Location) (node : Node) : FileSystem :=
  { files with
    nodes := (location, node) :: files.nodes.filter fun (other, _) => other ≠ location }

def erase (files : FileSystem) (location : Location) : FileSystem :=
  { files with nodes := files.nodes.filter fun (other, _) => other ≠ location }

/-- Writes a file with the given modification time. -/
def writeAt (files : FileSystem) (path : String) (content : ByteArray) (modified : Int) :
    Except Fault FileSystem :=
  match files.locate path with
  | .error fault => .error fault
  | .ok location =>
      match files.node? location with
      | some .directory => .error .isDirectory
      | _ => .ok (files.put location (.file content modified))

def write (files : FileSystem) (path : String) (content : ByteArray) : Except Fault FileSystem :=
  files.writeAt path content files.clock

def remove (files : FileSystem) (path : String) : Except Fault FileSystem :=
  match files.locate path with
  | .error fault => .error fault
  | .ok location =>
      match files.node? location with
      | some (.file _ _) => .ok (files.erase location)
      | some .directory => .error .isDirectory
      | none => .error .notFound

/-- Whether the names say again that the place in front of them is a directory, by a point and
without naming another place. -/
def restates (names : List (List Char)) : Bool :=
  names.contains ['.'] && names.all fun name => name == [] || name == ['.']

/-- Follows the names of a path and makes the directories that are missing. The last directory is
not made when points behind it require it to be there already. What was made before a fault
stays. -/
def makeFrom (files : FileSystem) (location : Location) :
    List (List Char) → Except Fault Unit × FileSystem
  | [] => (.ok (), files)
  | name :: names =>
      if name = [] ∨ name = ['.'] then files.makeFrom location names
      else if name = ['.', '.'] then files.makeFrom location.parent names
      else if nameLimit < byteLength name then (.error .nameTooLong, files)
      else
        let inner := location.child (String.ofList name)
        match files.node? inner with
        | some .directory => files.makeFrom inner names
        | some (.file _ _) =>
            let isLast := names.all List.isEmpty
            (.error (if isLast then .alreadyExists else .notDirectory), files)
        | none =>
            if restates names then (.error .notFound, files)
            else (files.put inner .directory).makeFrom inner names

/-- Makes a directory and those around it, unless they exist. The empty path is the working
directory. -/
def makeDirectories (files : FileSystem) (path : String) : Except Fault Unit × FileSystem :=
  match pathFault? path.toList with
  | some .notFound => (.ok (), files)
  | some fault => (.error fault, files)
  | none => files.makeFrom (origin path.toList) (splitPath path.toList)

def directoryOf (path : String) : String :=
  String.ofList (((path.toList.reverse.dropWhile (· ≠ '/')).dropWhile (· = '/')).reverse)

/-- The files right inside a directory with their names, in ascending order, or none if the path
does not lead to a directory. -/
def filesIn? (files : FileSystem) (path : String) : Option (List (String × ByteArray × Int)) :=
  match files.locate path with
  | .error _ => none
  | .ok location =>
      match files.node? location with
      | some .directory =>
          let inside := files.nodes.filterMap fun (place, node) =>
            match node with
            | .file content modified =>
                if place.names ≠ [] ∧ place.parent = location then
                  place.names.getLast?.map fun name => (name, content, modified)
                else none
            | .directory => none
          some (inside.mergeSort fun left right => left.1 ≤ right.1)
      | _ => none

end FileSystem

end ViewTemplate
