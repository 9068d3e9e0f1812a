import Surveyor.FileKind
import Surveyor.Path

/-!
Counts of files by what they are for. A file may count in several ways.
-/
namespace Surveyor

structure FileStats where
  total : Int := 0
  code : Int := 0
  test : Int := 0
  component : Int := 0
  config : Int := 0
  documentation : Int := 0
  style : Int := 0
  /-- The lowercased names of all folders on the way to a file, in order and without repeats. -/
  folders : List String := []
  deriving DecidableEq, Repr

namespace FileStats

def codeExtensions : List String :=
  FileKind.sourceExtensions ++ [".py", ".java", ".cs", ".go", ".rs", ".rb", ".php", ".swift", ".kt"]

def componentExtensions : List String := [".tsx", ".jsx", ".vue", ".svelte"]

def configExtensions : List String := [".json", ".yaml", ".yml", ".toml", ".ini", ".env"]

def documentationExtensions : List String := [".md", ".mdx", ".txt", ".rst", ".adoc"]

def styleExtensions : List String := [".css", ".scss", ".sass", ".less", ".styl", ".pcss"]

def extension (path : String) : String := String.ofList (Text.lowerChars (Path.suffix path.toList))

/-- The parts of a path before the last one; an absolute path has its root among them. -/
def foldersOf (path : String) : List String :=
  let chars := path.toList
  let start := Path.lead chars
  let all := (if start.isEmpty then [] else [start]) ++ Path.parts chars
  all.dropLast.map String.ofList

def isCode (path : String) : Bool := codeExtensions.contains (extension path)

def isTest (path : String) : Bool := isCode path && FileKind.ofPath path == .test

def isComponent (path : String) : Bool :=
  componentExtensions.contains (extension path) && (foldersOf path).contains "components"

def isConfig (path : String) : Bool :=
  configExtensions.contains (extension path) ||
    Text.startsWith (String.ofList (Path.name path.toList)) ".env"

def isDocumentation (path : String) : Bool := documentationExtensions.contains (extension path)

def isStyle (path : String) : Bool := styleExtensions.contains (extension path)

def sorted (entries : List String) : List String :=
  entries.eraseDups.mergeSort fun a b => a ≤ b

def ofFiles (files : List String) : FileStats where
  total := files.length
  code := files.countP isCode
  test := files.countP isTest
  component := files.countP isComponent
  config := files.countP isConfig
  documentation := files.countP isDocumentation
  style := files.countP isStyle
  folders := sorted (files.flatMap fun path => (foldersOf path).map Text.lower)

end FileStats

end Surveyor
