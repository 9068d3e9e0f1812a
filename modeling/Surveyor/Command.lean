import Surveyor.Manifest
import Surveyor.Marker
import Surveyor.Text.Casing
import Surveyor.Text.Search

/-!
Commands that a developer of the project may run: the scripts of its manifest, then those of the tools around it.
-/
namespace Surveyor

inductive CommandCategory where
  | build
  | test
  | deploy
  | docker
  | git
  | other
  deriving DecidableEq, Repr

namespace CommandCategory

def name : CommandCategory → String
  | build => "Build"
  | test => "Test"
  | deploy => "Deploy"
  | docker => "Docker"
  | git => "Git"
  | other => "Other"

/-- Parts of the names of scripts with what they tell. -/
def hints : List (String × CommandCategory) :=
  [("dev", build), ("start", build), ("build", build), ("test", test), ("lint", test), ("deploy", deploy),
   ("docker", docker)]

/-- The category of a script, by the first hint that its name holds. -/
def ofScript (script : String) : CommandCategory :=
  ((hints.find? fun hint => Text.contains (Text.lower script) hint.1).map (·.2)).getD other

end CommandCategory

inductive PackageManager where
  | pnpm
  | yarn
  | npm
  deriving DecidableEq, Repr

namespace PackageManager

/-- The manager whose lock file is at the root. -/
def ofFiles (files : List String) : PackageManager :=
  if files.contains "pnpm-lock.yaml" then pnpm
  else if files.contains "yarn.lock" then yarn
  else npm

def run (script : String) : PackageManager → String
  | pnpm => "pnpm " ++ script
  | yarn => "yarn " ++ script
  | npm => if script = "start" then "npm start" else "npm run " ++ script

end PackageManager

structure ProjectCommand where
  label : String
  command : String
  category : CommandCategory
  description : String
  deriving DecidableEq, Repr

namespace ProjectCommand

def ofGit : List ProjectCommand :=
  [⟨"Git Status", "git status", .git, "Show the working tree status"⟩,
   ⟨"Git Pull", "git pull", .git, "Fetch and merge remote changes"⟩,
   ⟨"Git Push", "git push", .git, "Push local commits"⟩]

def ofDocker : List ProjectCommand :=
  [⟨"Docker Build", "docker build -t app .", .docker, "Build the image"⟩,
   ⟨"Docker Run", "docker run -p 3000:3000 app", .docker, "Run the container"⟩]

def ofScript (manager : PackageManager) (name script : String) : ProjectCommand where
  label := name
  command := manager.run name
  category := .ofScript name
  description := "Script: " ++ script

def ofProject (manifest : Option Manifest) (markers : Markers) (files : List String) : List ProjectCommand :=
  let scripts := (manifest.map (·.scripts)).getD []
  scripts.map (fun (name, script) => ofScript (.ofFiles files) name script) ++ ofGit ++
    if markers.has .dockerfile then ofDocker else []

end ProjectCommand

end Surveyor
