import Surveyor.Imports.Alias

/-!
Resolving import specifiers to files of the workspace. Aliases come first, then paths relative to the importing file,
then paths from the root; each candidate is tried as it is, with an extension, and as a folder with an index file.
-/
namespace Surveyor.Imports

def extensions : List String :=
  [".ts", ".tsx", ".js", ".jsx", ".mjs", ".cjs", ".vue", ".svelte", ".css", ".scss", ".less", ".json"]

def indexExtensions : List String := [".ts", ".tsx", ".js", ".jsx", ".vue", ".svelte"]

/-- A candidate without one leading `./` and without slashes at its end; the current directory is empty. -/
def bareCandidate (candidate : List Char) : List Char :=
  let inside := if ['.', '/'].isPrefixOf candidate then candidate.drop 2 else candidate
  let bare := (inside.reverse.dropWhile (· == '/')).reverse
  if bare = ['.'] then [] else bare

def probe (known : String → Bool) (candidate : List Char) : Option String :=
  let bare := bareCandidate candidate
  let folder := if bare = [] then [] else bare ++ ['/']
  let direct := if bare = [] then none else some (String.ofList bare)
  (direct.filter known).orElse fun _ =>
    (direct.bind fun path => (extensions.map (path ++ ·)).find? known).orElse fun _ =>
      (indexExtensions.map fun extension => String.ofList folder ++ "index" ++ extension).find? known

/-- A specifier without its query and its fragment. -/
def pathPart (specifier : List Char) : List Char :=
  (specifier.takeWhile (· != '?')).takeWhile (· != '#')

/-- The known file that a specifier means in a source file. A specifier that is no path and has no alias means a
package. -/
def resolve (known : String → Bool) (aliases : AliasTable) (source specifier : String) : Option String :=
  let path := pathPart specifier.toList
  let name := String.ofList path
  let isRelative := path.head? = some '.'
  let isAbsolute := path.head? = some '/'
  if path = [] then none
  else if !(isRelative || isAbsolute || aliases.covers name) then none
  else
    ((aliases.expand name).findSome? fun target => probe known (Path.normalise target.toList)).orElse fun _ =>
      if isRelative then
        probe known (Path.normalise (Path.join (Path.parent source.toList) path))
      else if isAbsolute then
        probe known (Path.normalise (path.dropWhile (· == '/')))
      else none

end Surveyor.Imports
