import Surveyor.Fields
import Surveyor.Manifest
import Surveyor.Marker
import Surveyor.Text.Search

/-!
The technology stack of a project. Each category has rules in a fixed order: the first plain rule that applies names
the label and its family, and later rules of that family refine the label.
-/
namespace Surveyor

inductive StackCategory where
  | frontend
  | backend
  | css
  | stateManagement
  | orm
  | testing
  | bundler
  | runtime
  | apiStyle
  | authentication
  | gameEngine
  | deployment
  deriving DecidableEq, Repr

namespace StackCategory

def all : List StackCategory :=
  [frontend, backend, css, stateManagement, orm, testing, bundler, runtime, apiStyle, authentication, gameEngine,
   deployment]

def name : StackCategory → String
  | frontend => "frontend_framework"
  | backend => "backend_framework"
  | css => "css_framework"
  | stateManagement => "state_management"
  | orm => "orm"
  | testing => "testing_framework"
  | bundler => "bundler"
  | runtime => "runtime_environment"
  | apiStyle => "api_style"
  | authentication => "authentication"
  | gameEngine => "game_engine"
  | deployment => "deployment_target"

end StackCategory

structure StackRule where
  label : String
  dependencies : List String := []
  markers : List Marker := []
  /-- Parts of dependency names. -/
  fragments : List String := []
  /-- Names of scripts, each with a part of its command. -/
  scripts : List (String × String) := []
  /-- The label that this rule refines. -/
  family : Option String := none
  always : Bool := false
  deriving DecidableEq, Repr

structure StackFacts where
  dependencies : List String
  scripts : List (String × String)
  markers : Markers

namespace StackRule

def applies (rule : StackRule) (facts : StackFacts) : Bool :=
  rule.always || rule.dependencies.any facts.dependencies.contains || rule.markers.any facts.markers.has ||
    rule.fragments.any (fun fragment => facts.dependencies.any (Text.contains · fragment)) ||
    rule.scripts.any fun (name, fragment) => Text.contains ((Fields.get? name facts.scripts).getD "") fragment

/-- One rule after those before it, which left a label and its family. -/
def refine (facts : StackFacts) (found : Option (String × String)) (rule : StackRule) : Option (String × String) :=
  match found, rule.family with
  | none, none => if rule.applies facts then some (rule.label, rule.label) else none
  | some (label, family), some refined =>
    if family = refined ∧ rule.applies facts then some (rule.label, family) else some (label, family)
  | found, _ => found

/-- The label that rules give, evaluated from first to last. -/
def classify (rules : List StackRule) (facts : StackFacts) : Option String :=
  (rules.foldl (refine facts) none).map (·.1)

private def plain (label : String) (dependencies : List String) : StackRule := { label, dependencies }

private def refined (label dependency family : String) : StackRule :=
  { label, dependencies := [dependency], family := some family }

private def marked (label : String) (dependencies : List String) (marker : Marker) : StackRule :=
  { label, dependencies, markers := [marker] }

/-- The rules of each category. -/
def ofCategory : StackCategory → List StackRule
  | .frontend =>
    [plain "React" ["react", "react-dom"], refined "Next.js" "next" "React", refined "Gatsby" "gatsby" "React",
     refined "Remix" "remix" "React", plain "Vue.js" ["vue"], refined "Nuxt.js" "nuxt" "Vue.js",
     plain "Angular" ["@angular/core"], plain "Svelte" ["svelte"], refined "SvelteKit" "@sveltejs/kit" "Svelte",
     plain "SolidJS" ["solid-js"], plain "Astro" ["astro"], plain "Qwik" ["qwik", "@builder.io/qwik"]]
  | .backend =>
    [plain "Express.js" ["express"], plain "Fastify" ["fastify"], plain "NestJS" ["nestjs", "@nestjs/core"],
     plain "Hono" ["hono"], plain "Koa" ["koa"], plain "tRPC" ["@trpc/server"], plain "Elysia" ["elysia"]]
  | .css =>
    [marked "Tailwind CSS" ["tailwindcss"] .tailwind, plain "Styled Components" ["styled-components"],
     plain "Emotion" ["@emotion/react", "@emotion/styled"], plain "Sass/SCSS" ["sass", "node-sass"],
     plain "Chakra UI" ["@chakra-ui/react"], plain "Material UI" ["@mui/material", "@material-ui/core"],
     plain "Ant Design" ["antd"], plain "Bootstrap" ["bootstrap"],
     { label := "Radix UI / shadcn", dependencies := ["shadcn"], fragments := ["radix-ui"] }]
  | .stateManagement =>
    [plain "Zustand" ["zustand"], plain "Redux" ["@reduxjs/toolkit", "redux"], plain "Recoil" ["recoil"],
     plain "Jotai" ["jotai"], plain "MobX" ["mobx"], plain "Pinia" ["pinia"], plain "Vuex" ["vuex"],
     plain "XState" ["xstate"]]
  | .orm =>
    [marked "Prisma" ["@prisma/client", "prisma"] .prisma, plain "TypeORM" ["typeorm"],
     plain "Sequelize" ["sequelize"], plain "Mongoose" ["mongoose"], plain "Drizzle" ["drizzle-orm"],
     plain "Knex" ["knex"], plain "Supabase" ["@supabase/supabase-js"]]
  | .testing =>
    [plain "Vitest" ["vitest"], plain "Jest" ["jest"], plain "Mocha" ["mocha"],
     plain "Playwright" ["@playwright/test", "playwright"], plain "Cypress" ["cypress"]]
  | .bundler =>
    [marked "Vite" ["vite"] .vite, marked "Webpack" ["webpack"] .webpack, plain "esbuild" ["esbuild"],
     plain "Turbopack" ["turbopack"], plain "Rollup" ["rollup"], plain "Parcel" ["parcel"]]
  | .runtime =>
    [plain "Bun" ["bun"], plain "Deno" ["deno"], { label := "Node.js", always := true }]
  | .apiStyle =>
    [marked "GraphQL" ["graphql", "@apollo/server"] .graphql, plain "tRPC" ["@trpc/server"],
     marked "REST (OpenAPI)" [] .openapi, plain "REST" ["express", "fastify", "hono"]]
  | .authentication =>
    [plain "NextAuth.js" ["next-auth", "@auth/core"], plain "Passport.js" ["passport"],
     plain "Auth0" ["@auth0/auth0-react", "auth0"], plain "Clerk" ["@clerk/clerk-sdk-node", "@clerk/nextjs"],
     plain "Firebase Auth" ["firebase", "firebase-admin"], plain "Supabase Auth" ["@supabase/supabase-js"]]
  | .gameEngine =>
    [plain "Phaser" ["phaser"], plain "PixiJS" ["pixi.js", "pixijs"], plain "Three.js" ["three"],
     plain "Babylon.js" ["@babylonjs/core"], plain "Kaboom.js" ["kaboom"], plain "Excalibur" ["excalibur"]]
  | .deployment =>
    [{ label := "Vercel", dependencies := ["vercel"], scripts := [("deploy", "vercel")] },
     plain "Netlify" ["netlify-cli"], plain "Azure Functions" ["@azure/functions"],
     plain "AWS" ["aws-sdk", "@aws-sdk/client-lambda"], plain "Firebase" ["firebase-functions"],
     marked "Docker" [] .dockerfile]

end StackRule

structure Signals where
  labels : StackCategory → Option String := fun _ => none
  pwaSupport : Bool := false
  offlineReady : Bool := false

namespace Signals

def offlineDependencies : List String := ["workbox", "workbox-webpack-plugin"]

def ofFacts (facts : StackFacts) : Signals where
  labels := fun category => StackRule.classify (StackRule.ofCategory category) facts
  pwaSupport := facts.markers.has .pwa
  offlineReady := offlineDependencies.any facts.dependencies.contains

/-- A stack of which only the engine of a game is known. -/
def ofEngine (engine : String) : Signals where
  labels := fun category => if category = .gameEngine then some engine else none

/-- The stack of a project. Without a manifest only the projects of game engines show anything. -/
def detect (manifest : Option Manifest) (markers : Markers) : Signals :=
  match manifest with
  | some manifest => ofFacts ⟨manifest.allDependencies, manifest.scripts, markers⟩
  | none =>
    if markers.has .unityProject then ofEngine "Unity"
    else if markers.has .godotProject then ofEngine "Godot"
    else {}

end Signals

end Surveyor
