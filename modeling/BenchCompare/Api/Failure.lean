/-!
# Failed requests
-/

namespace BenchCompare

/-- A line for the user: a fixed text, and what the machine has to say about it, if anything. -/
structure Notice where
  text : String
  detail : Option String := none
deriving DecidableEq, Repr

/-- The notice with a text in front of it. -/
def Notice.within (n : Notice) (context : String) : Notice := { n with text := context ++ ": " ++ n.text }

/-- The notice on one line. -/
def Notice.line (n : Notice) : String :=
  match n.detail with
  | none => n.text
  | some detail => n.text ++ ": " ++ detail

/-- Why a request to the service gave no result. -/
inductive Failure where
  /-- No response came. -/
  | transport (url : String)
  /-- The response was not a success. -/
  | status (url : String) (code : Nat)
  /-- The body was not what it should be. -/
  | malformed (url : String)
deriving DecidableEq, Repr

namespace Failure

/-- What is shown for every failed comparison. -/
def userMessage (_ : Failure) : String := "Error while retrieving data from the API."

def notice : Failure → Notice
  | .transport url => { text := "request to " ++ url ++ " failed", detail := "no response" }
  | .status url code => { text := url ++ " returned HTTP " ++ toString code }
  | .malformed url => { text := "malformed payload from " ++ url, detail := "not of the expected form" }

end Failure

end BenchCompare
