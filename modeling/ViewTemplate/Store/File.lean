import ViewTemplate.Digest.Sha256
import ViewTemplate.Directive.Pass
import ViewTemplate.Store.Basic

/-!
A store that reads views from files and keeps their fragments in a cache directory. A cached
fragment is used only if it is strictly newer than its source; otherwise the source is compiled and
the cache file is written again.
-/

namespace ViewTemplate

/-- Where a file store looks for views and keeps fragments. -/
structure FileStore where
  viewsDirectory : String
  cacheDirectory : String
  /-- What is put behind the name of a view, its point included. -/
  extension : String
  /-- The directories of the namespaces. -/
  namespaces : Entries String
  deriving DecidableEq

namespace FileStore

/-- What is put behind the names of views unless a store says otherwise. -/
def defaultExtension : String := ".sabre.html"

/-- What a view name begins with that gives the path of a file itself. -/
def pathMark : String := "path: "

/-- What stands between a namespace and the name of a view in it. -/
def namespaceMark : String := "::"

/-- A store with the default extension and no namespaces. -/
def inDirectories (viewsDirectory cacheDirectory : String) : FileStore :=
  ⟨viewsDirectory, cacheDirectory, defaultExtension, []⟩

def withNamespace (name directory : String) (store : FileStore) : FileStore :=
  { store with namespaces := Entries.put name directory store.namespaces }

/-! ## Names and paths -/

/-- The path of a view below its directory: points in its name stand for directories. -/
def relativePath (store : FileStore) (view : List Char) : String :=
  String.ofList (view.map fun character => if character = '.' then '/' else character) ++
    store.extension

def resolve (store : FileStore) (name : String) : Except Cause String :=
  match Text.stripInitial? pathMark.toList name.toList with
  | some path => .ok (String.ofList path)
  | none =>
      match Text.breakOn? namespaceMark.toList name.toList with
      | some (spaceName, view) =>
          match store.namespaces.lookup (String.ofList spaceName) with
          | some directory => .ok (FileSystem.join directory (store.relativePath view))
          | none => .error (.viewNotFound name)
      | none =>
          .ok (FileSystem.join store.viewsDirectory (store.relativePath name.toList))

def cachePath (store : FileStore) (path : String) : String :=
  FileSystem.join store.cacheDirectory (Digest.Sha256.ofText path)

/-! ## Views -/

def contains (store : FileStore) (name : String) (files : FileSystem) : Bool :=
  match store.resolve name with
  | .ok path => files.isFile path
  | .error _ => false

def sourceTime (name path : String) (files : FileSystem) : Except Cause Int :=
  match files.find path with
  | .ok (.file _ modified) => .ok modified
  | .ok .directory => .error (.viewNotFound name)
  | .error .notFound => .error (.viewNotFound name)
  | .error fault => .error (.files fault)

def isFresh (cache : String) (time : Int) (files : FileSystem) : Bool :=
  match files.modified? cache with
  | some modified => time < modified
  | none => false

/-- Compiles the file at a path and writes the fragment to the cache. -/
def compileInto (store : FileStore) (path cache : String) (files : FileSystem) :
    Except Cause String × FileSystem :=
  match files.readText path with
  | .error fault => (.error (.files fault), files)
  | .ok source =>
      let fragment := Directive.compile source
      match files.makeDirectories store.cacheDirectory with
      | (.error fault, files) => (.error (.files fault), files)
      | (.ok (), files) =>
          match files.write cache fragment.toUTF8 with
          | .error fault => (.error (.files fault), files)
          | .ok files => (.ok fragment, files)

/-- The fragment of a view, from the cache if that is newer than the source. -/
def compiled (store : FileStore) (name : String) (files : FileSystem) :
    Except Cause String × FileSystem :=
  match store.resolve name with
  | .error cause => (.error cause, files)
  | .ok path =>
      match sourceTime name path files with
      | .error cause => (.error cause, files)
      | .ok time =>
          let cache := store.cachePath path
          if isFresh cache time files then
            match files.readText cache with
            | .ok fragment => (.ok fragment, files)
            | .error fault => (.error (.files fault), files)
          else store.compileInto path cache files

end FileStore

def Store.file (store : FileStore) : Store FileSystem where
  contains := store.contains
  compiled := store.compiled

end ViewTemplate
