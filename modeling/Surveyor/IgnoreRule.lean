import Surveyor.Glob
import Surveyor.Text.Blank
import Surveyor.Text.Search

/-!
Rules that keep files and folders out of a listing. A rule with a slash speaks of the path from the root, any other
rule of each single part of a path.
-/
namespace Surveyor

structure IgnoreRule where
  pattern : String
  /-- The rule was written with a slash at its end and leaves files alone. -/
  foldersOnly : Bool
  /-- The rule was written with a slash at its start. -/
  anchored : Bool
  hasSlash : Bool
  deriving DecidableEq, Repr

namespace IgnoreRule

/-- Reads a rule. Blank lines and comments hold none. -/
def parse? (line : String) : Option IgnoreRule :=
  let trimmed := Text.trimChars line.toList
  if trimmed = [] ∨ trimmed.head? = some '#' then none
  else
    let foldersOnly := trimmed.getLast? = some '/'
    let body := if foldersOnly then trimmed.dropLast else trimmed
    let anchored := body.head? = some '/'
    let pattern := if anchored then body.drop 1 else body
    some ⟨String.ofList pattern, foldersOnly, anchored, pattern.contains '/'⟩

def excludes (rule : IgnoreRule) (path : String) (isFolder : Bool) : Bool :=
  if rule.pattern.isEmpty then false
  else if rule.foldersOnly && !isFolder then false
  else if rule.anchored || rule.hasSlash then
    Glob.matchesText rule.pattern path ||
      (rule.foldersOnly && Text.startsWith path (rule.pattern ++ "/"))
  else
    (path.toList.splitOn '/').any fun part => Glob.fits (Glob.parse rule.pattern.toList) part

end IgnoreRule

end Surveyor
