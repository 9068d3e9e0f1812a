import Surveyor.Disk
import Surveyor.Text.Blank

/-!
What a project says about itself: the text under the first heading of its readme, in one line. A readme that cannot be
read is passed over for the next name, but a location that is too long ends the search.
-/
namespace Surveyor.Readme

def fileNames : List String := ["README.md", "readme.md", "Readme.md"]

/-- How long a summary grows before it takes no further line. -/
def lengthLimit : Nat := 300

def isHeading (line : List Char) : Bool := line.head? == some '#'

/-- The lines up to the one that takes up all of the room; each also takes one space. -/
def fill : (room : Nat) → List (List Char) → List (List Char)
  | _, [] => []
  | room, line :: rest => if room < line.length + 1 then [line] else line :: fill (room - (line.length + 1)) rest

/-- The lines between the first heading and the next one. -/
def body (lines : List (List Char)) : List (List Char) :=
  ((lines.dropWhile fun line => !isHeading line).drop 1).takeWhile fun line => !isHeading line

/-- The lines under the first heading, without the blanks around them and joined by spaces. -/
def summary (text : String) : String :=
  let filled := ((body (Text.lines text.toList)).map Text.trimChars).filter (· != [])
  String.ofList ([' '].intercalate (fill lengthLimit filled))

def loadFirst (disk : Disk) (root : String) : List String → Logged (Except Fault (Option String))
  | [] => pure (.ok none)
  | name :: rest =>
    let location := Path.locate root.toList name.toList
    match disk.entry location with
    | .error .nameTooLong => pure (.error .nameTooLong)
    | .ok (.file _) =>
      match disk.read location with
      | .ok text => pure (.ok (some (summary text)))
      | .error fault => do
        Logged.write
          ⟨.debug, "project_files", "Skipping unreadable README " ++ String.ofList location, some (.file fault)⟩
        loadFirst disk root rest
    | _ => loadFirst disk root rest

def load (disk : Disk) (root : String) : Logged (Except Fault (Option String)) := loadFirst disk root fileNames

end Surveyor.Readme
