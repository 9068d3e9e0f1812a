import Surveyor.Path

/-!
The host on which a workspace is looked for. A path may start at the home folder of a user, or at the folder that the
program runs in; the host knows where these are. What comes out is a root, the location that a workspace is known by.
-/
namespace Surveyor

structure Host where
  /-- Where relative paths start. -/
  folder : List Char := ['/']
  /-- The home folders of users by their names. The empty name stands for the user who runs the program. -/
  home? : String → Option String := fun _ => none

namespace Host

/-- Why a path stands for no location. -/
inductive Fault where
  /-- The home folder of a user is not known. -/
  | homeless
  | zeroInUser
  | zeroInPath
  deriving DecidableEq, Repr

def Fault.message : Fault → String
  | homeless => "Could not determine home directory."
  | zeroInUser => "embedded null byte"
  | zeroInPath => "lstat: embedded null character in path"

/-- The home folder of a user, who is named behind a tilde. One that begins with a tilde itself is as good as none. -/
def homeOf (host : Host) (user : List Char) : Except Fault (List Char) :=
  if '\x00' ∈ user then .error .zeroInUser
  else
    match (host.home? (String.ofList user)).map fun home => Path.dropSlashes home.toList with
    | none | some ('~' :: _) => .error .homeless
    | some [] => .ok ['/']
    | some home => .ok home

/-- Puts the home folder in the place of the first part of a relative path, if that begins with a tilde. -/
def expand (host : Host) (path : List Char) : Except Fault (List Char) :=
  match Path.lead path, Path.parts path with
  | [], ('~' :: user) :: rest => (host.homeOf user).map fun home => Path.join home (Path.ofSegments rest)
  | _, _ => .ok path

/-- The root that a path stands for. -/
def root (host : Host) (path : String) : Except Fault String := do
  let expanded ← host.expand path.toList
  if '\x00' ∈ expanded then throw .zeroInPath
  return String.ofList (Path.resolve (Path.join host.folder expanded))

end Host

end Surveyor
