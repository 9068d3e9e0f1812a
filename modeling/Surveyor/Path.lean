/-!
Paths with slashes, as texts. `normalise` is purely lexical: a `..` takes the segment before it away. A location is an
absolute path without empty segments and without `.`, as files are opened by it; it may hold `..`.
-/
namespace Surveyor.Path

def current : List Char := ['.']

def up : List Char := ['.', '.']

def segments (path : List Char) : List (List Char) := path.splitOn '/'

theorem slash_not_mem_segment {path segment : List Char} (member : segment ∈ segments path) : '/' ∉ segment := by
  unfold segments at member
  induction path generalizing segment with
  | nil =>
    rw [List.splitOn_nil, List.mem_singleton] at member
    simp [member]
  | cons c rest ih =>
    rw [List.splitOn_cons_eq_if_modifyHead] at member
    split at member
    next =>
      rcases List.mem_cons.mp member with rfl | later
      · simp
      · exact ih later
    next other =>
      cases split : rest.splitOn '/' with
      | nil => exact absurd split (List.splitOn_ne_nil _ _)
      | cons first more =>
        rw [split, List.modifyHead_cons] at member
        rcases List.mem_cons.mp member with rfl | later
        · have clean := ih (split ▸ List.mem_cons_self)
          have apart : c ≠ '/' := by simpa using other
          simp [clean, apart.symm]
        · exact ih (split ▸ List.mem_cons_of_mem _ later)

theorem mem_of_mem_segment {path segment : List Char} {c : Char} (member : segment ∈ segments path)
    (held : c ∈ segment) : c ∈ path := by
  unfold segments at member
  induction path generalizing segment with
  | nil =>
    rw [List.splitOn_nil, List.mem_singleton] at member
    simp [member] at held
  | cons d rest ih =>
    rw [List.splitOn_cons_eq_if_modifyHead] at member
    split at member
    next =>
      rcases List.mem_cons.mp member with rfl | later
      · cases held
      · exact List.mem_cons_of_mem _ (ih later held)
    next =>
      cases split : rest.splitOn '/' with
      | nil => exact absurd split (List.splitOn_ne_nil _ _)
      | cons first more =>
        rw [split, List.modifyHead_cons] at member
        rcases List.mem_cons.mp member with rfl | later
        · rcases List.mem_cons.mp held with rfl | inner
          · exact List.mem_cons_self
          · exact List.mem_cons_of_mem _ (ih (split ▸ List.mem_cons_self) inner)
        · exact List.mem_cons_of_mem _ (ih (split ▸ List.mem_cons_of_mem _ later) held)

def ofSegments (parts : List (List Char)) : List Char := ['/'].intercalate parts

/-- The slashes that make a path absolute: one, or exactly two. -/
def lead : List Char → List Char
  | '/' :: '/' :: '/' :: _ => ['/']
  | '/' :: '/' :: _ => ['/', '/']
  | '/' :: _ => ['/']
  | _ => []

/-- Takes one more segment. The kept segments come innermost first; above the root there is nothing, and a relative
path remembers how far it climbs. -/
def climb (absolute : Bool) (kept : List (List Char)) (segment : List Char) : List (List Char) :=
  if segment = [] ∨ segment = current then kept
  else if segment ≠ up then segment :: kept
  else
    match kept with
    | [] => if absolute then [] else [segment]
    | inner :: rest => if inner = up then segment :: kept else rest

/-- The lexical normal form. The current directory has the empty form. -/
def normalise (path : List Char) : List Char :=
  let start := lead path
  start ++ ofSegments ((segments path).foldl (climb !start.isEmpty) []).reverse

/-- The second path as seen from the first one. -/
def join (base path : List Char) : List Char :=
  if path.head? = some '/' then path
  else if base = [] ∨ base.getLast? = some '/' then base ++ path
  else base ++ '/' :: path

def dropSlashes (path : List Char) : List Char := (path.reverse.dropWhile (· == '/')).reverse

def parent (path : List Char) : List Char :=
  let head := (path.reverse.dropWhile (· != '/')).reverse
  if head.all (· == '/') then head else dropSlashes head

def parts (path : List Char) : List (List Char) :=
  (segments path).filter fun segment => segment != [] && segment != current

/-- The path without empty segments and without `.`. -/
def tidy (path : List Char) : List Char := lead path ++ ofSegments (parts path)

def name (path : List Char) : List Char := (parts path).getLast?.getD []

/-- How many parts a path has, counting its root. -/
def depth (path : List Char) : Nat := (parts path).length + if (lead path).isEmpty then 0 else 1

/-- The last dot of a name and what follows it, unless the dot is at either end. -/
def suffix (path : List Char) : List Char :=
  let whole := name path
  let tail := (whole.reverse.takeWhile (· != '.')).reverse
  if tail.isEmpty || whole.length ≤ tail.length + 1 then [] else '.' :: tail

/-- The location of a path below another location; an absolute path is its own. -/
def locate (base path : List Char) : List Char := tidy (join base path)

/-- The location of an absolute path with every `..` taken away. -/
def resolve (path : List Char) : List Char :=
  '/' :: ofSegments ((segments path).foldl (climb true) []).reverse

def folder (path : List Char) : List Char := lead path ++ ofSegments (parts path).dropLast

end Surveyor.Path
