import Surveyor.Progress.Measure

/-!
The rubrics of the usual phases of a project, and the keywords of titles that choose among them.
-/
namespace Surveyor.Progress

namespace Check

/-- A check that always shows the same evidence. -/
def plain (points : Int) (holds : ProjectFacts → Bool) (evidence missing : String) : Check :=
  ⟨points, fun facts => .ok (holds facts), fun _ => .ok evidence, missing⟩

def marked (points : Int) (marker : Marker) (evidence missing : String) : Check :=
  plain points (·.markers.has marker) evidence missing

/-- A check for a category of the stack, which shows what was found. -/
def detected (points : Int) (category : StackCategory) (label missing : String) : Check :=
  { points
    holds := fun facts => .ok (facts.signals.labels category).isSome
    evidence := fun facts => .ok (label ++ ": " ++ (facts.signals.labels category).getD "None")
    missing }

def scripted (points : Int) (parts : List String) (evidence missing : String) : Check :=
  plain points (·.hasScript parts) evidence missing

/-- A check for a least number of something, which shows the number. -/
def counted (points : Int) (count : ProjectFacts → Int) (least : Int) (label missing : String) : Check :=
  { points
    holds := fun facts => .ok (least ≤ count facts)
    evidence := fun facts => do return (← written (count facts)) ++ " " ++ label
    missing }

/-- A check for a least ratio. -/
def rated (points : Int) (ratio : ProjectFacts → Except Unscorable Binary64) (least : Binary64)
    (evidence : ProjectFacts → Except Unscorable String) (missing : String) : Check :=
  { points
    holds := fun facts => do return least.le (← ratio facts)
    evidence
    missing }

def eslint (points : Int) : Check := marked points .eslint "ESLint configured" "No ESLint configuration"

def prettier (points : Int) : Check := marked points .prettier "Prettier configured" "No Prettier configuration"

def husky (points : Int) : Check := marked points .husky "Git hooks (Husky) configured" "No Git hooks (Husky)"

def readme (points : Int) : Check := marked points .readme "README present" "No README"

def dockerfile (points : Int) : Check :=
  marked points .dockerfile "Docker configuration" "No Dockerfile or compose file"

def pipeline (points : Int) : Check := marked points .cicd "CI pipeline configured" "No CI configuration"

def environment (points : Int) : Check :=
  marked points .envExample ".env.example documents variables" "No .env.example"

def buildScript (points : Int) : Check :=
  scripted points ["build"] "build script defined" "No build script"

def testScript (points : Int) : Check := scripted points ["test"] "test script defined" "No test script"

def edges (points : Int) : Check :=
  counted points (fun facts => facts.edgeCount) 1 "internal import edges" "No internal imports between workspace files"

def connected (points : Int) : Check :=
  rated points (·.connectedRatio) (.ofDecimal false 5 (-1))
    (fun facts => do return (← wholePercent (← facts.connectedRatio)) ++ " of source files connected")
    "Less than half of source files are connected in the import graph"

def interfaces (points : Int) : Check :=
  { points
    holds := fun facts => .ok facts.declaresInterfaces
    evidence := fun facts => do return (← written (← facts.interfaceCount)) ++ " interfaces/types declared"
    missing := "No interfaces or type declarations found" }

def themed (points : Int) : Check :=
  { points
    holds := fun facts => .ok !(facts.filesWith ["theme", "tokens"]).isEmpty
    evidence := fun facts => .ok ("Theme files: " ++ ", ".intercalate ((facts.filesWith ["theme", "tokens"]).take 3))
    missing := "No theme or design-token files" }

def databaseModule (points : Int) : Check :=
  { points
    holds := fun facts => .ok !facts.importedDatabaseFiles.isEmpty
    evidence := fun facts =>
      match facts.importedDatabaseFiles with
      | file :: _ => .ok ("Database module used by the app: " ++ file)
      | [] => .error .noFile
    missing := "No database module imported by other files" }

end Check

namespace Rubric

open Check

def setup : Rubric where
  name := "setup"
  checks :=
    [marked 20 .packageJson "package.json present" "No package.json manifest", readme 10,
     marked 10 .tsconfig "tsconfig.json configured" "No tsconfig.json", eslint 10, prettier 10,
     scripted 10 ["dev", "start"] "dev/start script defined" "No dev or start script", buildScript 10,
     marked 10 .gitignore ".gitignore present" "No .gitignore", environment 5, husky 5]

def architecture : Rubric where
  name := "architecture"
  checks :=
    [counted 15 (·.stats.code) 10 "code files" "Fewer than 10 code files",
     counted 10 (fun facts => facts.layerCount) 2 "architectural layer directories"
       "Fewer than 2 layer directories (components, services, ...)",
     plain 10 (4 ≤ ·.layerCount) "Layered structure with 4+ layer directories" "Fewer than 4 layer directories",
     edges 15,
     connected 15,
     marked 10 .tsconfig "TypeScript configuration" "No tsconfig.json",
     plain 10 (·.hasAliases) "Path aliases configured" "No path aliases configured",
     interfaces 15]

def design : Rubric where
  name := "design"
  checks :=
    [detected 20 .frontend "Frontend framework" "No frontend framework detected",
     detected 20 .css "CSS framework" "No CSS framework detected",
     counted 15 (·.stats.component) 1 "component files" "No component files under components/",
     plain 10 (10 ≤ ·.stats.component) "10+ component files" "Fewer than 10 component files",
     counted 10 (·.stats.style) 1 "stylesheet files" "No stylesheet files",
     marked 10 .storybook "Storybook configured" "No Storybook",
     themed 10,
     marked 5 .i18n "Internationalisation resources" "No i18n/locales directory"]

def backend : Rubric where
  name := "backend"
  checks :=
    [detected 25 .backend "Backend framework" "No backend framework detected",
     detected 15 .apiStyle "API style" "No API style detected",
     counted 20 (fun facts => facts.endpointCount) 1 "API endpoints implemented" "No API endpoints found in source",
     plain 15 (·.hasFolder ["api", "routes", "controllers", "server", "handlers"]) "API/route directories present"
       "No api/, routes/ or controllers/ directory",
     marked 10 .openapi "OpenAPI specification" "No OpenAPI/Swagger specification",
     detected 10 .authentication "Authentication" "No authentication library detected", environment 5]

def database : Rubric where
  name := "database"
  checks :=
    [detected 30 .orm "ORM" "No ORM or database client detected",
     plain 20 (fun facts => facts.markers.has .prisma || facts.hasFolder ["migrations"]) "Schema or migrations present"
       "No schema file or migrations directory",
     plain 20
       (fun facts => !(facts.filesWith ["model", "entity", "schema"]).isEmpty || facts.hasFolder ["models", "entities"])
       "Data model files present" "No model/entity/schema files",
     plain 10 (fun facts => !(facts.filesWith ["seed"]).isEmpty) "Seed data scripts present" "No seed files",
     marked 10 .envExample ".env.example documents connection settings" "No .env.example",
     databaseModule 10]

def tests : Rubric where
  name := "tests"
  checks :=
    [detected 25 .testing "Test framework" "No test framework dependency",
     counted 25 (·.stats.test) 1 "test files" "No test files (*.test.* / *.spec.*)",
     rated 15 (·.testRatio) (.ofDecimal false 1 (-1))
       (fun facts => do return "Test/code ratio " ++ percent (← facts.testRatio)) "Test/code ratio below 10%",
     rated 10 (·.testRatio) (.ofDecimal false 3 (-1)) (fun _ => .ok "Test/code ratio of at least 30%")
       "Test/code ratio below 30%",
     plain 6 (·.hasEndToEndTools) "End-to-end test tooling" "No end-to-end test tooling (Playwright/Cypress)",
     testScript 8, eslint 6, prettier 5]

def continuousIntegration : Rubric where
  name := "cicd"
  checks :=
    [pipeline 40, dockerfile 15, scripted 10 ["lint"] "lint script defined" "No lint script", testScript 10,
     buildScript 10, husky 5, marked 5 .changesets "Changesets release workflow" "No Changesets", eslint 5]

def documentation : Rubric where
  name := "documentation"
  checks :=
    [readme 30, marked 15 .contributing "CONTRIBUTING guide" "No CONTRIBUTING guide",
     marked 15 .license "LICENSE present" "No LICENSE",
     counted 15 (·.stats.documentation) 3 "documentation files" "Fewer than 3 documentation files",
     marked 15 .changelog "CHANGELOG maintained" "No CHANGELOG",
     marked 10 .openapi "API documented with OpenAPI" "No OpenAPI documentation"]

def deployment : Rubric where
  name := "deployment"
  checks :=
    [detected 30 .deployment "Deployment target" "No deployment target detected", dockerfile 20, pipeline 20,
     buildScript 15, environment 10, scripted 5 ["start"] "start script defined" "No start script"]

/-- How many points each code file allows a phase of no known kind. -/
def pointsPerCodeFile : Int := 5

def generic : Rubric where
  name := "generic"
  checks :=
    [counted 30 (·.stats.code) 1 "code files" "No code files",
     counted 20 (·.stats.test) 1 "test files" "No test files", readme 15, buildScript 15, edges 20]
  cap := some fun facts => facts.stats.code * pointsPerCodeFile

end Rubric

def Registry.standard : Registry where
  entries :=
    [⟨["setup", "configuration", "initiali", "installation", "bootstrap"], .setup⟩,
     ⟨["architecture", "structure"], .architecture⟩,
     ⟨["design", " ui ", " ui/", "/ui ", " ux ", "interface", "frontend", "front-end", "dashboard", "composant",
       "component"], .design⟩,
     ⟨[" api", "backend", "back-end", "endpoint", "server", "serveur"], .backend⟩,
     ⟨["database", "base de données", "base de donnees", "données", "donnees", " db ", "schema", "migration",
       "persistence", "persistance", "stockage"], .database⟩,
     ⟨["test", "qualité", "qualite", "quality", " qa "], .tests⟩,
     ⟨["ci/cd", " ci ", "devops", "pipeline", "continuous", "intégration continue"], .continuousIntegration⟩,
     ⟨["documentation", " docs", " doc ", "readme", "guide"], .documentation⟩,
     ⟨["deploy", "déploiement", "deploiement", "release", "production", "hosting", "launch"], .deployment⟩]
  generic := .generic

end Surveyor.Progress
