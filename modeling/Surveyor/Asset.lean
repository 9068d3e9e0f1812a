import Surveyor.Fields
import Surveyor.FileStats

/-!
Media files of a workspace. The extension makes a file an asset and gives its category, unless words of its path tell
otherwise.
-/
namespace Surveyor

inductive AssetCategory where
  | sprite
  | background
  | interface
  | icon
  | texture
  | font
  | effect
  | music
  | video
  | model
  deriving DecidableEq, Repr

namespace AssetCategory

def name : AssetCategory → String
  | sprite => "Sprite"
  | background => "Background"
  | interface => "UI_Element"
  | icon => "Icon"
  | texture => "Texture"
  | font => "Font"
  | effect => "Audio_SFX"
  | music => "Audio_Music"
  | video => "Video"
  | model => "Model3D"

def extensions : List (String × AssetCategory) :=
  [(".png", sprite), (".jpg", sprite), (".jpeg", sprite), (".gif", sprite), (".webp", sprite), (".svg", icon),
   (".ico", icon), (".mp3", effect), (".wav", effect), (".ogg", effect), (".flac", music), (".m4a", music),
   (".ttf", font), (".otf", font), (".woff", font), (".woff2", font), (".mp4", video), (".webm", video),
   (".gltf", model), (".glb", model), (".obj", model), (".fbx", model)]

/-- Beginnings of words with what they tell; the first entry that fits counts. -/
def hints : List (List String × AssetCategory) :=
  [(["background", "bg"], background), (["music", "soundtrack", "ost"], music), (["sfx", "sound", "effect"], effect),
   (["ui", "button", "interface", "menu"], interface), (["sprite", "character", "enemy", "player"], sprite),
   (["icon"], icon), (["texture"], texture), (["font"], font)]

def isWordPart (c : Char) : Bool := c.isDigit || c.isLower

def pathWords (path : String) : List (List Char) :=
  ((Text.lowerChars path.toList).splitOnP fun c => !isWordPart c).filter (· != [])

/-- The category of a file, with the one that its extension gives. -/
def ofPath (path : String) (ordinary : AssetCategory) : AssetCategory :=
  let words := pathWords path
  let fits := fun entry : List String × AssetCategory =>
    words.any fun word => entry.1.any fun hint => hint.toList.isPrefixOf word
  ((hints.find? fits).map (·.2)).getD ordinary

end AssetCategory

structure Asset where
  name : String
  category : AssetCategory
  path : String
  extension : String
  deriving DecidableEq, Repr

namespace Asset

def fileLimit : Int := 5000

def ofPath? (path : String) : Option Asset :=
  let extension := FileStats.extension path
  (Fields.get? extension AssetCategory.extensions).map fun ordinary =>
    ⟨String.ofList (Path.name path.toList), AssetCategory.ofPath path ordinary, path, extension⟩

/-- The order by the name of the category and then by the name of the file. -/
def comesBefore (a b : Asset) : Bool :=
  a.category.name < b.category.name || (a.category.name == b.category.name && a.name ≤ b.name)

/-- The first assets of a listing up to a limit, in order; equal ones stay as they are listed. -/
def ofFiles (limit : Int) (files : List String) : List Asset :=
  ((files.filterMap ofPath?).take limit.toNat).mergeSort comesBefore

end Asset

end Surveyor
