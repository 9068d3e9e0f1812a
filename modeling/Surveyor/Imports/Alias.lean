import Surveyor.Disk
import Surveyor.Json.Commented
import Surveyor.Json.Reader
import Surveyor.Text.Search

/-!
Path aliases of a workspace, read from its compiler configuration. A rule with a star at its end stands for all
specifiers with the same start; targets are paths from the root of the workspace.
-/
namespace Surveyor

structure AliasRule where
  pattern : String
  /-- The pattern without its star. -/
  stem : String
  wildcard : Bool
  targets : List String
  deriving DecidableEq, Repr

namespace AliasRule

def covers (rule : AliasRule) (specifier : String) : Bool :=
  if rule.wildcard then Text.startsWith specifier rule.stem else specifier == rule.stem

/-- The targets for a specifier. Under a star each of them is followed by what the specifier has beyond the stem. -/
def expand (rule : AliasRule) (specifier : String) : List String :=
  let beyond := if rule.wildcard then specifier.toList.drop rule.stem.length else []
  rule.targets.map fun target => String.ofList (target.toList ++ beyond)

end AliasRule

structure AliasTable where
  rules : List AliasRule := []
  source : Option String := none
  deriving DecidableEq, Repr

namespace AliasTable

def hasRules (table : AliasTable) : Bool := !table.rules.isEmpty

def covers (table : AliasTable) (specifier : String) : Bool := table.rules.any (·.covers specifier)

/-- The paths that a specifier may stand for, in the order of the rules and of their targets. -/
def expand (table : AliasTable) (specifier : String) : List String :=
  (table.rules.filter (·.covers specifier)).flatMap (·.expand specifier)

def configNames : List String := ["tsconfig.json", "jsconfig.json"]

/-- Less deep comes first, and of equally deep paths the smaller one. -/
def comesBefore (a b : String) : Bool :=
  let da := Path.depth a.toList
  let db := Path.depth b.toList
  da < db || (da == db && a < b)

/-- The first of the entries by an order; of equals the first one stays. -/
def least? (before : String → String → Bool) : List String → Option String
  | [] => none
  | first :: rest => some (rest.foldl (fun best entry => if before entry best then entry else best) first)

/-- The compiler configuration of a workspace, the least deep one of the first name that has any. -/
def configOf (files : List String) : Option String :=
  configNames.findSome? fun name =>
    least? comesBefore (files.filter fun path => Path.name path.toList == name.toList)

/-- Two paths in one, normalised; an empty one does not count. -/
def joinPaths (base path : List Char) : List Char :=
  Path.normalise ([base, path].foldl (fun whole part => if part = [] then whole else Path.join whole part) ['.'])

/-- The path that a target stands for. What comes before a star keeps its slash at the end. -/
def targetPath (base target : List Char) (wildcard : Bool) : List Char :=
  if wildcard ∧ target.getLast? = some '*' then
    let stem := target.dropLast
    let joined := joinPaths base stem
    if stem = [] ∨ stem.getLast? = some '/' then
      if joined = [] then [] else joined ++ ['/']
    else joined
  else joinPaths base target

/-- The rule of one entry; a lone star would stand for every specifier and makes none. -/
def ruleOf? (base : List Char) (pattern : String) (targets : Json) : Option AliasRule :=
  match targets with
  | .array items =>
    let chars := pattern.toList
    let wildcard := chars.getLast? = some '*'
    let stem := if wildcard then chars.dropLast else chars
    let paths := (items.filterMap Json.text?).map fun target =>
      String.ofList (targetPath base target.toList wildcard)
    if stem = [] ∨ paths = [] then none
    else some ⟨pattern, String.ofList stem, wildcard, paths⟩
  | _ => none

/-- The table of a configuration that was read as JSON. -/
def ofConfig (path : String) (config : Json) : AliasTable :=
  match config with
  | .object fields =>
    match Fields.get? "compilerOptions" fields with
    | some (.object options) =>
      match Fields.get? "paths" options with
      | some (.object entries) =>
        let baseUrl := ((Fields.get? "baseUrl" options).bind Json.text?).getD "."
        let base := joinPaths (Path.parent path.toList) baseUrl.toList
        ⟨entries.filterMap fun (pattern, targets) => ruleOf? base pattern targets, some path⟩
      | _ => ⟨[], some path⟩
    | _ => ⟨[], some path⟩
  | _ => {}

/-- Reads the aliases of a workspace. A configuration that cannot be read or is no JSON leaves none. -/
def load (disk : Disk) (root : String) (config : Option String) : Logged AliasTable :=
  match config with
  | none => pure {}
  | some path =>
    match disk.read (Path.locate root.toList path.toList) with
    | .error fault => do
      Logged.write ⟨.debug, "graph.aliases", "Unable to read " ++ path, some (.file fault)⟩
      return {}
    | .ok text =>
      match Json.read (Json.stripComments text) with
      | .error fault => do
        let cause := if fault = .malformed then .malformedJson else .text fault.message
        Logged.write ⟨.warning, "graph.aliases", "Failed to parse alias config " ++ path, some cause⟩
        return {}
      | .ok config => pure (ofConfig path config)

end AliasTable

end Surveyor
