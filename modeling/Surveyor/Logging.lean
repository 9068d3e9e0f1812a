import Surveyor.Log
import Surveyor.Template.Fill

/-!
Where log records go. The library's logger hands each record of its components to its handlers, each of which writes to
one sink. Until it is configured it has one handler, which writes nowhere; every configuration puts new handlers in the
place of all earlier ones and keeps records from the loggers around it.
-/
namespace Surveyor

namespace Logging

def rootName : String := "devarchitect"

/-- The full name of a component's logger. Without a component it is the library's own. -/
def loggerName (component : String) : String := if component.isEmpty then rootName else rootName ++ "." ++ component

/-- Whether a logger stands below the library's own. Its name is read from its end. Around a logger stands the nearest
one that is known of those whose names end before a dot of its own name. The search for the next dot leaves out the
character before the last one, so that of dots in a row only every second one counts. -/
def isBelow (known : List String) : List Char → Bool
  | '.' :: c :: rest =>
    let outer := String.ofList (c :: rest).reverse
    outer == rootName || if known.contains outer then isBelow known (c :: rest) else isBelow known rest
  | _ :: rest => isBelow known rest
  | [] => false

/-- The text of a message. Without arguments it stands as it is. -/
def fill? (message : String) (arguments : List Json) : Option String :=
  if arguments.isEmpty then some message else Template.fill? message arguments

inductive Sink where
  | nowhere
  | stream (number : Nat)
  | file (path : String)
  deriving DecidableEq, Repr

structure Handler where
  sink : Sink
  /-- The least level that the handler writes; without one it writes all. -/
  level : Option Level := none
  deriving DecidableEq, Repr

/-- A record on its way to the handlers. -/
structure Call where
  level : Level
  component : String
  /-- The message with its arguments in their places, if they fit it. -/
  text : Option String
  deriving DecidableEq, Repr

structure Line where
  level : Level
  logger : String
  message : String
  deriving DecidableEq, Repr

def Line.text (line : Line) : String := line.level.name ++ " " ++ line.logger ++ ": " ++ line.message

/-- What a handler writes for a record. A message that its arguments do not fit is left out. -/
def Call.lines (call : Call) : List Line :=
  (call.text.map fun text => ⟨call.level, loggerName call.component, text⟩).toList

def reaches (level : Level) (bound : Option Level) : Bool :=
  match bound with
  | some least => least.severity ≤ level.severity
  | none => true

def Handler.accepts (handler : Handler) (level : Level) : Bool :=
  handler.sink != .nowhere && reaches level handler.level

end Logging

/-- The library's logger, with all that was written so far. -/
structure Logging where
  /-- The least level that is handled; without one that of the loggers around counts. -/
  level : Option Level := none
  propagates : Bool := true
  handlers : List Logging.Handler := [{ sink := .nowhere }]
  /-- The names of the components' loggers that were asked for. -/
  known : List String := []
  written : List (Logging.Sink × Logging.Line) := []
  /-- What the loggers around were given. -/
  passedOn : List Logging.Call := []
  deriving DecidableEq, Repr

namespace Logging

/-- The level of the loggers around the library's own. -/
def outerLevel : Level := .warning

def isEnabled (level : Level) (bound : Option Level) : Bool :=
  0 < level.severity && reaches level (some (bound.getD outerLevel))

/-- Sends records to a stream, and to a file if there is one, and nowhere else. -/
def configure (logging : Logging) (verbose : Bool) (stream : Nat) (file : Option String) : Logging :=
  let level : Level := if verbose then .debug else .info
  { logging with
    level := some level
    propagates := false
    handlers := ⟨.stream stream, some level⟩ :: (file.map fun path => ⟨.file path, some level⟩).toList }

/-- Asks for the logger of a component. -/
def obtain (logging : Logging) (component : String) : Logging :=
  { logging with known := loggerName component :: logging.known }

/-- Whether the records of a component come to the library's logger. -/
def receives (logging : Logging) (component : String) : Bool :=
  component.isEmpty || isBelow logging.known (loggerName component).toList.reverse

def handle (logging : Logging) (call : Call) : Logging :=
  let sinks := (logging.handlers.filter (·.accepts call.level)).map (·.sink)
  { logging with
    written := logging.written ++ sinks.flatMap fun sink => call.lines.map fun line => (sink, line)
    passedOn := if logging.propagates then logging.passedOn ++ [call] else logging.passedOn }

/-- Logs a record on the logger of a component. The logger asks the loggers around it anew each time. One whose name
begins with a dot may instead go by an answer it got before another logger came to stand around it. -/
def submit (logging : Logging) (call : Call) : Logging :=
  let logging := logging.obtain call.component
  if logging.receives call.component then
    if isEnabled call.level logging.level then logging.handle call else logging
  else if isEnabled call.level none then { logging with passedOn := logging.passedOn ++ [call] }
  else logging

def log (logging : Logging) (level : Level) (component message : String) (arguments : List Json) : Logging :=
  logging.submit ⟨level, component, fill? message arguments⟩

def linesOf (logging : Logging) (sink : Sink) : List Line :=
  (logging.written.filter (·.1 == sink)).map (·.2)

/-- The text of a stream, each line behind the library's name. -/
def streamText (logging : Logging) (number : Nat) : String :=
  String.join ((logging.linesOf (.stream number)).map fun line => "[" ++ rootName ++ "] " ++ line.text ++ "\n")

end Logging

end Surveyor
