import Surveyor.Text.Scan

/-!
Endpoints of a web interface: routes that source text registers, and handlers whose route is the path of their file.
-/
namespace Surveyor.Metrics

open Text

def routeMethods : List String := ["get", "post", "put", "patch", "delete"]

def handlerMethods : List String := ["GET", "POST", "PUT", "PATCH", "DELETE", "OPTIONS"]

def routeOwners : List String := ["app", "router"]

private def isRouteQuote (c : Char) : Bool := c == '\'' || c == '"' || c == '\x60'

/-- A method called on an application or a router with a quoted route, in letters of either case. -/
def readRoute : Reader String := fun text => do
  let owner ← routeOwners.findSome? fun word => afterEitherCase? word.toList text
  let call ← after? ['.'] owner
  let (method, rest) ← routeMethods.findSome? fun method =>
    (afterEitherCase? method.toList call).map fun rest => (method, rest)
  let (route, tail) ← quoted isRouteQuote (skipBlanks (← after? ['('] (skipBlanks rest)))
  return (method.toUpper ++ " " ++ String.ofList route, tail)

/-- An exported function that is named like a method. -/
def readHandler : Reader String := fun text => do
  let start ← afterWord? "function" (skipWord "async" (← afterWord? "export" text))
  handlerMethods.findSome? fun method => do
    let tail ← after? method.toList start
    if (tail.head?.map isWordCharacter).getD false then none else some (method, tail)

def routeFiles : List String := ["/route.ts", "/route.js"]

def withoutEnding (endings : List String) (text : List Char) : List Char :=
  match endings.find? fun ending => ending.toList.isSuffixOf text with
  | some ending => text.take (text.length - ending.length)
  | none => text

/-- The route of a file below a folder `api`. -/
def fileRoute? (path : String) : Option String :=
  (afterFirst? "/api/".toList ('/' :: path.toList)).map fun rest =>
    String.ofList (withoutEnding routeFiles ("/api/".toList ++ rest))

/-- The endpoints of a file: its routes, then the first handler if its path makes a route. -/
def endpoints (path : String) (text : List Char) : List String :=
  let handled := do
    let route ← fileRoute? path
    let method ← firstRead? readHandler text
    return method ++ " " ++ route
  collect readRoute text ++ handled.toList

end Surveyor.Metrics
