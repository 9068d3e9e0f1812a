import Surveyor.Disk
import Surveyor.FileKind
import Surveyor.Host
import Surveyor.IgnoreRule

/-!
Listings of a workspace: the paths from the root of all files that no rule keeps out, each folder's own files first
and then its folders, in the order of their names, up to a cap. Folders that cannot be listed are passed over.
-/
namespace Surveyor

structure Listing where
  root : String
  files : List String := []
  /-- Whether files were left out beyond the cap. -/
  truncated : Bool := false
  deriving DecidableEq, Repr

namespace Listing

/-- Folders of dependencies, build products and tools, which hold nothing of the workspace's own. -/
def foreignFolders : List String :=
  [".git", ".hg", ".svn", "node_modules", "bower_components", "dist", "build", "out", "coverage", ".next", ".nuxt",
   ".svelte-kit", ".turbo", ".cache", ".venv", "__pycache__", ".pytest_cache", ".mypy_cache", ".idea"]

def foreignFiles : List String := [".DS_Store", "Thumbs.db"]

/-- The endings of files that are nodes of the import graph. -/
def graphEndings : List String :=
  FileKind.sourceExtensions ++ FileKind.styleExtensions ++ FileKind.assetExtensions ++ [".json"]

def isGraphFile (path : String) : Bool := FileKind.endsWithAny (Text.lower path) graphEndings

def graphFiles (listing : Listing) : List String := listing.files.filter isGraphFile

/-- A path below a folder of the workspace; the root is the empty path. -/
def below (folder name : String) : String := if folder.isEmpty then name else folder ++ "/" ++ name

def keepsFolder (rules : List IgnoreRule) (folder name : String) : Bool :=
  !foreignFolders.contains name && !rules.any (·.excludes (below folder name) true)

def keepsFile (rules : List IgnoreRule) (folder name : String) : Bool :=
  !foreignFiles.contains name && !rules.any (·.excludes (below folder name) false)

/-- Named results in the order of their names. -/
def byName {α : Type} (entries : List (String × α)) : List (String × α) :=
  entries.mergeSort fun a b => a.1 ≤ b.1

def ownFiles (rules : List IgnoreRule) (folder : String) (children : List (String × Entry)) :
    List String :=
  (byName (children.filter (·.2.isFile))).filterMap fun (name, _) =>
    if keepsFile rules folder name then some (below folder name) else none

/-- What a walk comes upon. -/
inductive Visit where
  | file (path : String)
  /-- A folder that cannot be listed, so that nothing below it is met. -/
  | closed (fault : Fault)
  deriving DecidableEq, Repr

namespace Visit

def file? : Visit → Option String
  | file path => some path
  | closed _ => none

@[simp] theorem file?_file (path : String) : (file path).file? = some path := rfl

@[simp] theorem file?_closed (fault : Fault) : (closed fault).file? = none := rfl

/-- The files among visits, up to a number of them, with whether there is one more. A folder that cannot be listed is
logged as it is met; the file beyond the number ends the walk. -/
def collect : Nat → List Visit → Logged (List String × Bool)
  | _, [] => pure ([], false)
  | room, closed fault :: rest => do
    Logged.write ⟨.debug, "scanner", "Skipping unreadable directory", some (.file fault)⟩
    collect room rest
  | 0, file _ :: _ => pure ([], true)
  | room + 1, file path :: rest => do
    let (files, isMore) ← collect room rest
    return (path :: files, isMore)

end Visit

section
variable (rules : List IgnoreRule) (unlistable? : String → Option Fault)

mutual

/-- A walk over the files at and below an entry that stands at a path. -/
def visits (path : String) : Entry → List Visit
  | .file _ => []
  | .folder children =>
    match unlistable? path with
    | some fault => [.closed fault]
    | none =>
      (ownFiles rules path children).map .file ++ (byName (visitsOfFolders path children)).flatMap (·.2)

/-- The walks over the kept folders among the children. -/
def visitsOfFolders (path : String) : List (String × Entry) → List (String × List Visit)
  | [] => []
  | (_, .file _) :: rest => visitsOfFolders path rest
  | (name, .folder children) :: rest =>
    if keepsFolder rules path name then
      (name, visits (below path name) (.folder children)) :: visitsOfFolders path rest
    else visitsOfFolders path rest

end

end

inductive Refusal where
  | missing (path : String)
  | notFolder (path : String)
  | unusable (fault : Fault)
  /-- The path stands for no location. -/
  | root (fault : Host.Fault)
  deriving DecidableEq, Repr

/-- The text of a refusal. That of an unusable location, which comes from the file system, is left out. -/
def Refusal.message : Refusal → String
  | missing path => "Workspace path not found: " ++ path
  | notFolder path => "Workspace path is not a directory: " ++ path
  | unusable _ => ""
  | root fault => fault.message

/-- Lists the workspace at a resolved location. A refusal names it by the path that was asked for. -/
def scanAt (disk : Disk) (rules : List IgnoreRule) (cap : Int) (path : String) (location : List Char) :
    Logged (Except Refusal Listing) :=
  let root := String.ofList location
  match disk.entry location with
  | .error .missing | .error .notFolder => pure (.error (.missing path))
  | .error fault => pure (.error (.unusable fault))
  | .ok (.file _) => pure (.error (.notFolder path))
  | .ok (.folder children) => do
    let unlistable? := fun folder : String => disk.unlistable? (Path.locate location folder.toList)
    let (files, truncated) ← Visit.collect cap.toNat (visits rules unlistable? "" (.folder children))
    if truncated then
      Logged.write
        ⟨.debug, "scanner", "Discovery capped at " ++ toString cap ++ " files under " ++ root, none⟩
    return .ok ⟨root, files, truncated⟩

/-- Lists the workspace at an absolute path. -/
def scan (disk : Disk) (rules : List IgnoreRule) (cap : Int) (path : String) : Logged (Except Refusal Listing) :=
  scanAt disk rules cap path (Path.resolve path.toList)

/-- Lists the workspace that any path stands for. -/
def scanFrom (host : Host) (disk : Disk) (rules : List IgnoreRule) (cap : Int) (path : String) :
    Logged (Except Refusal Listing) :=
  match host.root path with
  | .error fault => pure (.error (.root fault))
  | .ok root => scanAt disk rules cap path root.toList

end Listing

end Surveyor
