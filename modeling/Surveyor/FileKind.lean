import Surveyor.Text.Casing
import Surveyor.Text.Search

/-!
Kinds of files, told from their paths alone. The tests come in a fixed order: test, configuration, style, asset and
source; letters of either case count the same.
-/
namespace Surveyor

inductive FileKind where
  | source
  | test
  | config
  | style
  | asset
  | other
  deriving DecidableEq, Repr

namespace FileKind

def name : FileKind → String
  | source => "source"
  | test => "test"
  | config => "config"
  | style => "style"
  | asset => "asset"
  | other => "other"

def sourceExtensions : List String := [".ts", ".tsx", ".js", ".jsx", ".mjs", ".cjs", ".vue", ".svelte"]

def styleExtensions : List String := [".css", ".scss", ".sass", ".less"]

def assetExtensions : List String := [".png", ".jpg", ".jpeg", ".gif", ".svg", ".webp"]

def configEndings : List String := [".config.js", ".config.ts", ".config.mjs", ".config.cjs", ".json"]

def testMarks : List String := [".test.", ".spec.", "__tests__/"]

def endsWithAny (path : String) (endings : List String) : Bool := endings.any (Text.endsWith path)

/-- The kind of the file at a path from the root. Backslashes count as slashes. -/
def ofPath (path : String) : FileKind :=
  let lowered := Text.lower (String.ofList (path.toList.map fun c => if c = '\\' then '/' else c))
  if testMarks.any (Text.contains ("/" ++ lowered)) then test
  else if endsWithAny lowered configEndings then config
  else if endsWithAny lowered styleExtensions then style
  else if endsWithAny lowered assetExtensions then asset
  else if endsWithAny lowered sourceExtensions then source
  else other

/-- Whether imports are read out of files of this kind. -/
def isParsed (kind : FileKind) : Bool := kind = source ∨ kind = test ∨ kind = style

end FileKind

end Surveyor
