import Surveyor.Disk
import Surveyor.Glob

/-!
Marker files: well-known files and folders that tell how a project is set up.
-/
namespace Surveyor

inductive Marker where
  | packageJson
  | dockerfile
  | readme
  | tsconfig
  | unityProject
  | godotProject
  | prisma
  | graphql
  | tailwind
  | tests
  | cicd
  | editorExtension
  | monorepo
  | storybook
  | openapi
  | i18n
  | pwa
  | ssr
  | webpack
  | vite
  | eslint
  | prettier
  | husky
  | changesets
  | envExample
  | license
  | contributing
  | changelog
  | gitignore
  deriving DecidableEq, Repr

inductive Evidence where
  /-- A file at a path from the root. -/
  | file (path : String)
  /-- A folder at a path from the root. -/
  | folder (path : String)
  /-- Any listed file whose name has the pattern. -/
  | named (pattern : String)
  deriving DecidableEq, Repr

namespace Marker

def all : List Marker :=
  [packageJson, dockerfile, readme, tsconfig, unityProject, godotProject, prisma, graphql, tailwind, tests, cicd,
   editorExtension, monorepo, storybook, openapi, i18n, pwa, ssr, webpack, vite, eslint, prettier, husky, changesets,
   envExample, license, contributing, changelog, gitignore]

def name : Marker → String
  | packageJson => "package_json"
  | dockerfile => "dockerfile"
  | readme => "readme"
  | tsconfig => "tsconfig"
  | unityProject => "unity_project"
  | godotProject => "godot_project"
  | prisma => "prisma"
  | graphql => "graphql"
  | tailwind => "tailwind"
  | tests => "tests"
  | cicd => "cicd"
  | editorExtension => "editor_extension"
  | monorepo => "monorepo"
  | storybook => "storybook"
  | openapi => "openapi"
  | i18n => "i18n"
  | pwa => "pwa"
  | ssr => "ssr"
  | webpack => "webpack"
  | vite => "vite"
  | eslint => "eslint"
  | prettier => "prettier"
  | husky => "husky"
  | changesets => "changesets"
  | envExample => "env_example"
  | license => "license"
  | contributing => "contributing"
  | changelog => "changelog"
  | gitignore => "gitignore"

private def files (paths : List String) : List Evidence := paths.map Evidence.file

/-- Any one of these shows the marker. -/
def evidence : Marker → List Evidence
  | packageJson => files ["package.json"]
  | dockerfile => files ["Dockerfile", "docker-compose.yml", "docker-compose.yaml", "compose.yaml"]
  | readme => files ["README.md", "readme.md", "Readme.md", "README"]
  | tsconfig => files ["tsconfig.json"]
  | unityProject => [.named "*.unity", .file "ProjectSettings/ProjectSettings.asset"]
  | godotProject => [.named "*.godot", .file "project.godot"]
  | prisma => [.file "prisma/schema.prisma", .named "schema.prisma"]
  | graphql => [.named "*.graphql", .named "*.gql"]
  | tailwind => files ["tailwind.config.js", "tailwind.config.ts", "tailwind.config.cjs", "tailwind.config.mjs"]
  | tests =>
    [.named "*.test.[jt]s", .named "*.test.[jt]sx", .named "*.spec.[jt]s", .named "*.spec.[jt]sx"]
  | cicd =>
    [.folder ".github/workflows", .file ".gitlab-ci.yml", .file "azure-pipelines.yml", .folder ".circleci"]
  | editorExtension => [.file "extension/package.json", .named "extension.ts"]
  | monorepo => files ["lerna.json", "pnpm-workspace.yaml", "nx.json", "turbo.json"]
  | storybook => [.folder ".storybook"]
  | openapi => files ["openapi.yaml", "openapi.yml", "openapi.json", "swagger.json", "swagger.yaml"]
  | i18n => [.folder "i18n", .folder "locales"]
  | pwa =>
    [.file "manifest.json", .file "public/manifest.json", .named "service-worker.js", .named "service-worker.ts"]
  | ssr => files ["next.config.js", "next.config.mjs", "next.config.ts", "nuxt.config.ts", "nuxt.config.js"]
  | webpack => files ["webpack.config.js", "webpack.config.ts"]
  | vite => files ["vite.config.ts", "vite.config.js", "vite.config.mjs"]
  | eslint =>
    files [".eslintrc", ".eslintrc.json", ".eslintrc.js", ".eslintrc.cjs", "eslint.config.js", "eslint.config.mjs"]
  | prettier => files [".prettierrc", ".prettierrc.json", "prettier.config.js"]
  | husky => [.folder ".husky"]
  | changesets => [.folder ".changeset"]
  | envExample => files [".env.example"]
  | license => files ["LICENSE", "LICENSE.md", "LICENSE.txt"]
  | contributing => files ["CONTRIBUTING.md", "CONTRIBUTING.en.md"]
  | changelog => files ["CHANGELOG.md"]
  | gitignore => files [".gitignore"]

end Marker

structure Markers where
  present : List Marker := []
  deriving DecidableEq, Repr

namespace Markers

def has (markers : Markers) (marker : Marker) : Bool := markers.present.contains marker

private def shows (disk : Disk) (root : List Char) (listed : List String) : Evidence → Bool
  | .file path => disk.isFile (Path.locate root path.toList)
  | .folder path => disk.isFolder (Path.locate root path.toList)
  | .named pattern => listed.any fun path => Glob.fits (Glob.parse pattern.toList) (Path.name path.toList)

/-- The markers of the folder at a location, given a listing of its files. -/
def detect (disk : Disk) (root : String) (listed : List String) : Markers :=
  ⟨Marker.all.filter fun marker => marker.evidence.any (shows disk root.toList listed)⟩

end Markers

inductive ProjectType where
  | web
  | game
  deriving DecidableEq, Repr

namespace ProjectType

def name : ProjectType → String
  | web => "WEB_MOBILE"
  | game => "GAME_2D"

/-- A project of a game engine is a game, any other one a web or mobile application. -/
def ofMarkers (markers : Markers) : ProjectType :=
  if markers.has .unityProject || markers.has .godotProject then game else web

end ProjectType

end Surveyor
