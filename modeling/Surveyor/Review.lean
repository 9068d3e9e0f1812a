import Surveyor.Disk
import Surveyor.Graph.Cluster
import Surveyor.Json.Display
import Surveyor.Keyword
import Surveyor.Progress.Score
import Surveyor.Reply

/-!
Reviews of a phase by a runner that sees excerpts of the files around its keywords. A review is an addition to the
score of the facts: whatever goes wrong leaves no review, and a record says why.
-/
namespace Surveyor.Review

def fileLimit : Nat := 10

def excerptLength : Nat := 1000

/-- Adds a file that was not there. The search is over as soon as there are enough files. -/
def gather (found : List String) (path : String) : Except (List String) (List String) :=
  let found := addOnce found path
  if fileLimit ≤ found.length then throw found else pure found

/-- What a search has found, whether it came to its end or was over before. -/
def gathered : Except (List String) (List String) → List String
  | .ok found | .error found => found

/-- The files with a keyword of the phase in their paths, each with its neighbourhood in the import graph. -/
def filesFor (graph : Graph) (depth : Option Int) (title description : String) : List String :=
  let seeds := graph.pathsWithAny (Keyword.ofText (title ++ " " ++ description))
  gathered (seeds.foldlM (fun found seed => (graph.cluster seed depth).foldlM gather found) [])

private def excerpt (disk : Disk) (root path : String) : Logged (Option String) :=
  match disk.read (Path.locate root.toList path.toList) with
  | .ok text =>
    pure (some ("--- " ++ path ++ " ---\n" ++ String.ofList (text.toList.take excerptLength)))
  | .error fault => do
    Logged.write ⟨.debug, "review", "Skipping unreadable file " ++ path, some (.file fault)⟩
    return none

def promptText (title description : String) (excerpts : List String) : String :=
  let context := "\n".intercalate excerpts
  "You are an expert project auditor.\n" ++
  "Analyse the phase below and the related code excerpts to determine its ACTUAL progress.\n\n" ++
  "PHASE: \"" ++ title ++ "\"\n" ++
  "DESCRIPTION: \"" ++ description ++ "\"\n\n" ++
  "RELATED CODE (excerpts):\n" ++
  (if context.isEmpty then "(no related files)" else context) ++ "\n\n" ++
  "Reply only with this JSON:\n" ++
  "\x7b\n" ++
  "  \"progress\": number between 0 and 100,\n" ++
  "  \"evidence\": [\"...\"],\n" ++
  "  \"missing\": [\"...\"]\n" ++
  "\x7d"

/-- The prompt for a phase with the files that can be read. -/
def prompt (disk : Disk) (root title description : String) (files : List String) : Logged String := do
  let excerpts ← Logged.mapList (excerpt disk root) files
  return promptText title description (excerpts.filterMap id)

/-- The items of a list as prose, without blank ones. -/
def itemTexts : Option Json → List String
  | some (.array items) => (items.map Json.display).filter fun item => !Text.isEmptyLine item.toList
  | _ => []

/-- The score that a progress stands for. -/
def scoreOf : Option Json → Except Reply.Fault Nat
  | some (.int value) =>
    if 0 ≤ value ∧ value ≤ 100 then .ok (Score.clamp value) else .error (outOfRange (toString value))
  | some (.real value) =>
    if Binary64.le (.ofInt 0) value && Binary64.le value (.ofInt 100) then
      (Score.clampReal value).mapError fun fault => .unusable fault.message
    else .error (outOfRange value.text)
  | _ => .error (.unusable "Review reply has no numeric progress")
where outOfRange (value : String) : Reply.Fault := .unusable ("Review progress out of range: " ++ value)

def ofReply (reply : String) : Except Reply.Fault Assessment := do
  match ← Reply.parse reply with
  | .object fields =>
    let score ← scoreOf (Fields.get? "progress" fields)
    return { score
             stage := .ofScore score
             evidence := itemTexts (Fields.get? "evidence" fields)
             missing := itemTexts (Fields.get? "missing" fields) }
  | _ => throw (.unusable "Review reply is not a JSON object")

/-- Reviews a phase. The runner is asked once, if the graph was built and holds a file for the phase. -/
def review (disk : Disk) (graph : Graph) (runner : Runner) (depth : Option Int) (title description : String) :
    Logged (Except Breakdown (Option Assessment) × Runner) := do
  let some root := graph.root | return (.ok none, runner)
  let files := filesFor graph depth title description
  if files.isEmpty then
    let message := "No files related to phase " ++ Text.quote title ++ "; skipping review"
    Logged.write ⟨.debug, "review", message, none⟩
    return (.ok none, runner)
  else
    let text ← prompt disk root title description files
    let (verdict, runner) := Reply.ask runner text ofReply
    match verdict with
    | .ok assessment => return (.ok (some assessment), runner)
    | .error failure =>
      match failure.cause with
      | .error breakdown => return (.error breakdown, runner)
      | .ok cause =>
        Logged.write ⟨.warning, "review", "Review of phase " ++ Text.quote title ++ " failed", some cause⟩
        return (.ok none, runner)

end Surveyor.Review
