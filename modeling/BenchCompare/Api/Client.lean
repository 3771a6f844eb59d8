import BenchCompare.Api.Failure
import BenchCompare.Api.RequestTarget
import BenchCompare.Catalog
import BenchCompare.Loader

/-!
# The client of the service

The network is what answers requests: a server at one origin, or nothing. A client asks it for the catalog of refs
and for comparisons below its base address.

* `Client.fetchCatalog`, `Client.fetchComparison`: what is asked for, or why it is missing.
-/

namespace BenchCompare

/-- The response to a request. -/
structure Response where
  status : Nat
  body : List UInt8

namespace Response

def isSuccess (r : Response) : Bool := 200 ≤ r.status && r.status < 300

/-- The response ends the exchange. One that only announces another does not, save for a change of protocol, and a
status has three digits. -/
def isFinal (r : Response) : Bool := (r.status = 101 || 200 ≤ r.status) && r.status < 1000

/-- What is received as a body. Two kinds of response never have one. -/
def received (r : Response) : List UInt8 := if r.status = 204 ∨ r.status = 304 then [] else r.body

end Response

/-- A server at an origin such as `http://localhost:8080`, as a function of the request target. -/
structure Server where
  origin : String
  respond : String → Response

/-- What can be reached. -/
abbrev Network := Option Server

/-- The target under which a URL is reached, and the response. -/
def Network.get? (n : Network) (url : String) : Option (String × Response) :=
  n.bind fun server => (Api.requestTarget? server.origin url).map fun target => (target, server.respond target)

/-- The base address of the service, which ends in a slash. -/
structure Client where
  base : String
deriving DecidableEq, Repr

namespace Client

/-- The client of an address, blank space at its ends aside. -/
def ofAddress (raw : String) : Client :=
  let base := Text.trim raw
  ⟨if base.toList.getLast? = some '/' then base else base ++ "/"⟩

def url (c : Client) (path : String) : String := c.base ++ path

def catalogPath : String := "vitess/refs"

/-- The target that a request for a path reaches. -/
def reached? (c : Client) (n : Network) (path : String) : Option String := (n.get? (c.url path)).map (·.1)

/-- What stands at a path below the base address. -/
def fetch {α : Type} (c : Client) (n : Network) (path : String) (read : List UInt8 → Option α) : Except Failure α :=
  let url := c.url path
  match n.get? url with
  | none => .error (.transport url)
  | some (_, response) =>
    if !response.isFinal then .error (.transport url)
    else if response.isSuccess then
      match read response.received with
      | some a => .ok a
      | none => .error (.malformed url)
    else .error (.status url response.status)

def fetchCatalog (c : Client) (n : Network) : Except Failure Catalog := c.fetch n catalogPath Catalog.ofBytes?

def fetchComparison (c : Client) (n : Network) (t : Target) : FetchResult := c.fetch n t.endpoint Payload.ofBytes?

end Client

end BenchCompare
