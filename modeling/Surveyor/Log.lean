/-!
Log records as values. A computation that logs returns its value together with the records in the order in which they
were written, so that its value can be spoken of alone.
-/
namespace Surveyor

/-- How severe a record is, by a number. -/
structure Level where
  severity : Int
  deriving DecidableEq, Repr

namespace Level

def debug : Level := ⟨10⟩

def info : Level := ⟨20⟩

def warning : Level := ⟨30⟩

def error : Level := ⟨40⟩

def critical : Level := ⟨50⟩

def names : List (Level × String) :=
  [(debug, "DEBUG"), (info, "INFO"), (warning, "WARNING"), (error, "ERROR"), (critical, "CRITICAL")]

/-- The levels that have names of their own. -/
def all : List Level := names.map (·.1)

def name (level : Level) : String :=
  ((names.find? (·.1 == level)).map (·.2)).getD ("Level " ++ toString level.severity)

end Level

inductive Fault where
  | missing
  | notFolder
  | isFolder
  /-- A file stands where a folder should be made. -/
  | occupied
  | nameTooLong
  | undecodable
  /-- A folder is not to be listed. -/
  | denied
  deriving DecidableEq, Repr

/-- What a record names as the cause of a failure. -/
inductive Cause where
  | file (fault : Fault)
  | malformedJson
  | service
  | text (message : String)
  deriving DecidableEq, Repr

structure Record where
  level : Level
  component : String
  message : String
  /-- Written after the message and a colon. -/
  cause : Option Cause := none
  deriving DecidableEq, Repr

/-- A value and the records written while it was computed. -/
structure Logged (α : Type) where
  value : α
  records : List Record := []

namespace Logged

instance : Monad Logged where
  pure value := ⟨value, []⟩
  bind first next :=
    let second := next first.value
    ⟨second.value, first.records ++ second.records⟩

@[simp] theorem value_pure {α : Type} (value : α) : (pure value : Logged α).value = value := rfl

@[simp] theorem value_bind {α β : Type} (first : Logged α) (next : α → Logged β) :
    (first >>= next).value = (next first.value).value := rfl

@[simp] theorem value_map {α β : Type} (f : α → β) (first : Logged α) :
    (f <$> first).value = f first.value := rfl

def write (record : Record) : Logged Unit := ⟨(), [record]⟩

def mapList {α β : Type} (f : α → Logged β) (entries : List α) : Logged (List β) :=
  ⟨entries.map fun entry => (f entry).value, entries.flatMap fun entry => (f entry).records⟩

end Logged

end Surveyor
