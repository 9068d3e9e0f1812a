import Surveyor.Disk
import Surveyor.Graph.Basic
import Surveyor.Json.Display
import Surveyor.Leading
import Surveyor.Reply

/-!
Audits of the files whose paths promise risk. Each file is shown to a runner on its own, and a file that cannot be read
or audited adds no issues.
-/
namespace Surveyor

inductive Severity where
  | critical
  | high
  | medium
  | low
  deriving DecidableEq, Repr

namespace Severity

def all : List Severity := [critical, high, medium, low]

def name : Severity → String
  | critical => "critical"
  | high => "high"
  | medium => "medium"
  | low => "low"

/-- The severity of a name in letters of either case. Any other name is the lowest one. -/
def ofName (text : String) : Severity := (all.find? fun severity => severity.name == Text.lower text).getD low

end Severity

structure Issue where
  severity : Severity
  kind : String
  file : String
  description : String
  recommendation : String
  line : Option Int
  deriving DecidableEq, Repr

namespace Audit

def riskKeywords : List String :=
  ["auth", "login", "security", "api", "db", "database", "sql", "query", "secret", "token", "admin"]

def fileLimit : Int := 10

def codeLength : Nat := 3000

/-- The risky files of a graph, by keyword and then in the order of the graph. -/
def hotspots (graph : Graph) : List String := graph.pathsWithAny riskKeywords

def fieldText (name : String) (fields : List (String × Json)) : String :=
  ((Fields.get? name fields).map Json.display).getD ""

def lineOf : Option Json → Option Int
  | some (.int line) => some line
  | _ => none

/-- The issue of an object. Whatever is no object is none. -/
def issue? (file : String) : Json → Option Issue
  | .object fields =>
    some
      { severity := .ofName (fieldText "severity" fields)
        kind := fieldText "type" fields
        file
        description := fieldText "description" fields
        recommendation := fieldText "recommendation" fields
        line := lineOf (Fields.get? "line" fields) }
  | _ => none

/-- Reads the issues of a reply about a file. -/
def ofReply (file reply : String) : Except Reply.Fault (List Issue) := do
  match ← Reply.parse reply with
  | .array items => return items.filterMap (issue? file)
  | _ => throw (.unusable "Audit reply is not a JSON array")

def promptText (path : String) (imports : List String) (code : String) : String :=
  "You are an application security expert (OWASP).\n" ++
  "Analyse this sensitive file for vulnerabilities (injection, XSS, auth bypass, hardcoded secrets).\n\n" ++
  "FILE: " ++ path ++ "\n" ++
  "CONTEXT: Imports: " ++ ", ".intercalate imports ++ "\n\n" ++
  "CODE:\n" ++
  "\x60\x60\x60\n" ++ code ++ "\n\x60\x60\x60\n\n" ++
  "Reply only with this JSON:\n" ++
  "[\n" ++
  "  \x7b\n" ++
  "    \"severity\": \"critical\" | \"high\" | \"medium\" | \"low\",\n" ++
  "    \"type\": \"Kind of flaw\",\n" ++
  "    \"line\": number,\n" ++
  "    \"description\": \"Short explanation\",\n" ++
  "    \"recommendation\": \"Suggested fix\"\n" ++
  "  \x7d\n" ++
  "]\n" ++
  "Reply [] when nothing is found."

/-- The prompt for a file of a graph, if the graph was built and the file can be read. -/
def prompt (disk : Disk) (graph : Graph) (path : String) : Logged (Option String) :=
  match graph.root with
  | none => pure none
  | some root =>
    match disk.read (Path.locate root.toList path.toList) with
    | .ok text =>
      pure (some (promptText path (graph.dependencies path) (String.ofList (text.toList.take codeLength))))
    | .error fault => do
      Logged.write ⟨.debug, "security", "Skipping unreadable file " ++ path, some (.file fault)⟩
      return none

def auditFile (disk : Disk) (graph : Graph) (runner : Runner) (path : String) :
    Logged (Except Breakdown (List Issue) × Runner) := do
  let some text ← prompt disk graph path | return (.ok [], runner)
  let (found, runner) := Reply.ask runner text (ofReply path)
  match found with
  | .ok issues => return (.ok issues, runner)
  | .error failure =>
    match failure.cause with
    | .error breakdown => return (.error breakdown, runner)
    | .ok cause =>
      Logged.write ⟨.warning, "security", "Security audit of " ++ path ++ " failed", some cause⟩
      return (.ok [], runner)

/-- Audits files one by one. A breakdown ends the audit. -/
def auditFiles (disk : Disk) (graph : Graph) (runner : Runner) :
    List String → Logged (Except Breakdown (List Issue) × Runner)
  | [] => pure (.ok [], runner)
  | path :: rest => do
    let (found, runner) ← auditFile disk graph runner path
    match found with
    | .error breakdown => return (.error breakdown, runner)
    | .ok issues =>
      let (later, runner) ← auditFiles disk graph runner rest
      return (later.map (issues ++ ·), runner)

/-- Audits the first risky files of a graph; a negative limit leaves as many out at the end. -/
def audit (disk : Disk) (graph : Graph) (runner : Runner) (limit : Int) :
    Logged (Except Breakdown (List Issue) × Runner) :=
  auditFiles disk graph runner (leading limit (hotspots graph))

end Audit

end Surveyor
