import Surveyor.Progress.Score
import Surveyor.Stack
import Surveyor.Text.Blank

/-!
The roadmap that is proposed for a project. Games and editor extensions have fixed phases; any other project has those
of a web application, some of which depend on its stack.
-/
namespace Surveyor

inductive Priority where
  | critical
  | high
  | medium
  deriving DecidableEq, Repr

def Priority.name : Priority → String
  | critical => "Critique"
  | high => "Haute"
  | medium => "Moyenne"

structure Phase where
  title : String
  description : String
  priority : Priority
  stage : Stage := .todo
  deriving DecidableEq, Repr

namespace Roadmap

def uses (dependencies parts : List String) : Bool :=
  dependencies.any fun dependency => parts.any (Text.contains dependency)

def backendParts : List String := ["express", "fastify", "nest", "koa", "hono"]

def databaseParts : List String := ["prisma", "typeorm", "mongoose", "sequelize", "drizzle"]

def loginParts : List String := ["next-auth", "passport", "auth0", "clerk", "supabase", "firebase"]

def stateParts : List String := ["zustand", "redux", "recoil", "jotai", "mobx", "pinia", "vuex"]

def endToEndParts : List String := ["cypress", "playwright"]

def game : List Phase :=
  [{ title := "Game Design Document"
     description := "Définition des mécaniques, règles et progression"
     priority := .critical },
   { title := "Prototype Core Loop"
     description := "Implémentation de la boucle de gameplay principale"
     priority := .high },
   { title := "Art & Assets"
     description := "Création des sprites, animations et effets visuels"
     priority := .high },
   { title := "Audio & SFX", description := "Musique et effets sonores", priority := .medium },
   { title := "Polish & Juice", description := "Animations, particules, feedback visuel", priority := .medium },
   { title := "Testing & QA", description := "Tests de gameplay, équilibrage, bugs", priority := .high },
   { title := "Release", description := "Publication sur stores/plateformes", priority := .critical }]

/-- The stack of an extension's views, or a mark that nothing is known of it. -/
def viewStack (dependencies commands : List String) (markers : Markers) : String :=
  let labels :=
    (if uses dependencies ["react"] then ["React"] else []) ++
      (if uses (dependencies ++ commands) ["vite"] then ["Vite"] else []) ++
      (if markers.has .tailwind then ["Tailwind"] else [])
  if labels.isEmpty then "N/A" else " + ".intercalate labels

def extension (dependencies commands : List String) (markers : Markers) : List Phase :=
  [{ title := "Contrats Webview ↔ Extension"
     description :=
       "Définir/valider les types de messages, versionner le protocole, et garantir la compatibilité sidebar/panel."
     priority := .critical },
   { title := "Stockage & Synchronisation"
     description :=
       "Unifier la persistance, éviter les boucles de mise à jour, et fiabiliser la synchronisation complète."
     priority := .critical },
   { title := "UI Webview (Dashboard)"
     description :=
       "Édition complète des champs, roadmap détaillée et vues de suivi. Stack détectée: " ++
         viewStack dependencies commands markers ++ "."
     priority := .high },
   { title := "Intégration IA Locale"
     description :=
       "Commandes de l'assistant couvrant la synchronisation, la planification et l'ajout de phases."
     priority := .high },
   { title := "Analyse Workspace (Qualité du signal)"
     description :=
       "Détection de stack multi-module, génération de roadmap plus fine, progression basée sur stats/tests/CI."
     priority := .medium },
   { title := "Qualité, Packaging & Release"
     description := "Tests et lint, build de la webview, packaging et préparation de la publication."
     priority := .high }]

/-- The label of a category; an empty label tells nothing. -/
def label? (signals : Signals) (category : StackCategory) : Option String :=
  (signals.labels category).filter fun label => !label.isEmpty

/-- The phases that every web project starts with. -/
def groundwork (signals : Signals) (markers : Markers) : List Phase :=
  [{ title := "Setup & Configuration"
     description :=
       "Initialisation du projet" ++ ((label? signals .frontend).map (" " ++ ·)).getD "" ++
         ", configuration linting/prettier, hooks, scripts build/test, et CI de base."
     priority := .critical },
   { title := "Architecture & Structure"
     description :=
       "Définition de l'architecture, structure des dossiers, patterns (composants, services, stores)"
     priority := .critical },
   { title := "Design System & UI"
     description :=
       "Composants UI de base" ++ (if markers.has .tailwind then " avec Tailwind CSS" else "") ++
         ", thème, couleurs, typographie"
     priority := .high }]

/-- The phases for the parts of the stack that only some web projects have. -/
def stackPhases (signals : Signals) (markers : Markers) (dependencies : List String) : List Phase :=
  let server : Phase :=
    { title := "Backend API"
      description :=
        "Développement des endpoints API " ++ (label? signals .backend).getD "REST" ++ ", validation, erreurs"
      priority := .high }
  let database : Phase :=
    { title := "Base de données"
      description := "Modèles de données, migrations, seeds, relations"
      priority := .high }
  let login : Phase :=
    { title := "Authentification"
      description := "Système de connexion, sessions, JWT, OAuth providers"
      priority := .critical }
  let state : Phase :=
    { title := "Gestion d'état"
      description := "Stores, actions, synchronisation état global/local"
      priority := .medium }
  (if (label? signals .backend).isSome || uses dependencies backendParts then [server] else []) ++
    (if markers.has .prisma || uses dependencies databaseParts then [database] else []) ++
    (if uses dependencies loginParts then [login] else []) ++
    (if uses dependencies stateParts then [state] else [])

/-- The phases that every web project ends with. -/
def delivery (signals : Signals) (markers : Markers) (dependencies : List String) : List Phase :=
  [{ title := "Fonctionnalités Core"
     description := "Développement des fonctionnalités principales de l'application"
     priority := .high },
   { title := "Tests & Qualité"
     description :=
       "Tests unitaires" ++ (if uses dependencies endToEndParts then ", E2E" else "") ++ ", couverture code, linting"
     priority := .high },
   { title := "Documentation"
     description := "README, API docs, guides utilisateur, commentaires code"
     priority := .medium },
   { title := "CI/CD & DevOps"
     description :=
       "Pipeline CI/CD" ++ (if markers.has .dockerfile then ", Docker" else "") ++ ", déploiement automatisé"
     priority := .high },
   { title := "Déploiement Production"
     description :=
       Text.trimEnd ("Mise en production " ++ (label? signals .deployment).getD "") ++ ", monitoring, logs"
     priority := .critical }]

def propose (project : ProjectType) (signals : Signals) (markers : Markers) (manifest : Option Manifest) : List Phase :=
  let dependencies := (manifest.map (·.allDependencies)).getD []
  match project with
  | .game => game
  | .web =>
    if markers.has .editorExtension then
      extension dependencies ((manifest.map (·.scripts)).getD [] |>.map (·.2)) markers
    else groundwork signals markers ++ stackPhases signals markers dependencies ++ delivery signals markers dependencies

end Roadmap

end Surveyor
