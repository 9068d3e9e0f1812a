import Surveyor.Json.Reader
import Surveyor.Runner
import Surveyor.Text.Blank
import Surveyor.Text.Search

/-!
Replies of runners: JSON, perhaps between the fences of a code block.
-/
namespace Surveyor.Reply

inductive Fault where
  | malformed
  | unusable (message : String)
  deriving DecidableEq, Repr

inductive Failure where
  | runner (fault : RunnerFault)
  | reply (fault : Fault)
  deriving DecidableEq, Repr

/-- The cause that is logged for a failure, unless it breaks the conversation down. -/
def Failure.cause : Failure → Except Breakdown Cause
  | runner (.refused message) => .ok (.text message)
  | runner .unreachable => .ok .service
  | runner (.missingKey key) => .error ⟨key⟩
  | reply .malformed => .ok .malformedJson
  | reply (.unusable message) => .ok (.text message)

def fence : List Char := ['\x60', '\x60', '\x60']

def language : List Char := "json".toList

/-- How many characters a fence at the start of a text takes, with its language; without a fence none. -/
def fenceLength (text : List Char) : Nat :=
  match Text.after? fence text with
  | none => 0
  | some rest => fence.length + if (Text.afterEitherCase? language rest).isSome then language.length else 0

/-- Passes over the first `skip` characters. -/
def unfencedFrom : (skip : Nat) → List Char → List Char
  | _, [] => []
  | skip + 1, _ :: rest => unfencedFrom skip rest
  | 0, c :: rest =>
    match fenceLength (c :: rest) with
    | 0 => c :: unfencedFrom 0 rest
    | skip + 1 => unfencedFrom skip rest

def unfenced (text : List Char) : List Char := unfencedFrom 0 text

/-- Reads the JSON of a reply. -/
def parse (reply : String) : Except Fault Json :=
  match Json.read (String.ofList (Text.trimChars (unfenced reply.toList))) with
  | .ok value => .ok value
  | .error .malformed => .error .malformed
  | .error fault => .error (.unusable fault.message)

def ask {α : Type} (runner : Runner) (prompt : String) (read : String → Except Fault α) :
    Except Failure α × Runner :=
  let (outcome, after) := runner.ask prompt
  match outcome with
  | .error fault => (.error (.runner fault), after)
  | .ok reply => ((read reply).mapError Failure.reply, after)

end Surveyor.Reply
