import Surveyor.Disk
import Surveyor.Text.Blank
import Surveyor.Text.Casing
import Surveyor.Text.Search

/-!
Variables that a project declares in its environment files. The first declaration of a key counts, a comment describes
the declaration after it, and values that look like credentials are masked.
-/
namespace Surveyor

structure EnvVariable where
  key : String
  value : String
  /-- The file of the declaration. -/
  source : String
  description : Option String
  deriving DecidableEq, Repr

namespace Environment

def fileNames : List String :=
  [".env", ".env.local", ".env.development", ".env.development.local", ".env.production", ".env.production.local",
   ".env.test", ".env.example", ".env.sample", ".env.template"]

def mask : String := "***masked***"

def secretWords : List String := ["secret", "password", "key", "token", "api"]

def isSecret (key : String) : Bool := secretWords.any (Text.contains (Text.lower key))

def isKeyCharacter (c : Char) : Bool := c.isAlphanum || c == '_'

def declaration? (line : List Char) : Option (List Char × List Char) :=
  let key := line.takeWhile isKeyCharacter
  match key, line.drop key.length with
  | first :: _, '=' :: value => if first.isDigit then none else some (key, value)
  | _, _ => none

/-- The value that is shown for a key. -/
def shown (key value : String) : String := if !value.isEmpty && isSecret key then mask else value

/-- What is known between two lines: the variables so far, and the comment that waits for a declaration. -/
structure Reading where
  declared : List EnvVariable := []
  comment : String := ""

def Reading.declares (reading : Reading) (key : String) : Bool := reading.declared.any (·.key == key)

/-- One more line of a file. A line of neither kind leaves the comment waiting, and so does a repeated key. -/
def readLine (source : String) (reading : Reading) (line : List Char) : Reading :=
  match Text.trimChars line with
  | '#' :: comment => { reading with comment := String.ofList (Text.trimChars comment) }
  | trimmed =>
    match declaration? trimmed with
    | none => reading
    | some (keyChars, value) =>
      let key := String.ofList keyChars
      if reading.declares key then reading
      else
        let description := if reading.comment.isEmpty then none else some reading.comment
        { declared := reading.declared ++ [⟨key, shown key (String.ofList value), source, description⟩] }

/-- One more file, whose first declaration has no comment yet. -/
def readFile (known : List EnvVariable) (source text : String) : List EnvVariable :=
  ((Text.lines text.toList).foldl (readLine source) { declared := known }).declared

/-- The variables of texts that come with the names of their files. -/
def ofTexts (texts : List (String × String)) : List EnvVariable :=
  texts.foldl (fun known (source, text) => readFile known source text) []

/-- The texts of the files that are there and can be read, with their names. -/
def textsOf (disk : Disk) (root : String) : List String → Logged (Except Fault (List (String × String)))
  | [] => pure (.ok [])
  | name :: rest =>
    let location := Path.locate root.toList name.toList
    match disk.entry location with
    | .error .nameTooLong => pure (.error .nameTooLong)
    | .ok (.file _) =>
      match disk.read location with
      | .ok text => do return (← textsOf disk root rest).map ((name, text) :: ·)
      | .error fault => do
        Logged.write
          ⟨.debug, "project_files", "Skipping unreadable env file " ++ String.ofList location, some (.file fault)⟩
        textsOf disk root rest
    | _ => textsOf disk root rest

/-- The variables of a workspace. Only a location that is too long is a failure. -/
def load (disk : Disk) (root : String) : Logged (Except Fault (List EnvVariable)) := do
  return (← textsOf disk root fileNames).map ofTexts

end Environment

end Surveyor
