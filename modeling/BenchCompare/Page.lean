import BenchCompare.AddressBar
import BenchCompare.Loader

/-!
# Comparison pages

A page is a loader with its address bar and the list of all requests that it made, oldest first.
-/

namespace BenchCompare

structure Page where
  loader : Loader
  address : AddressBar
  requests : List Request := []

namespace Page

def params (p : Page) : Params := p.loader.params

def kind (p : Page) : Kind := p.loader.kind

def status (p : Page) : Status := p.loader.status

/-- Carries out one effect. -/
def perform (p : Page) : Effect → Page
  | .writeAddress params =>
    { p with address := p.address.navigate (Query.write p.kind p.address.query params) }
  | .fetch request => { p with requests := p.requests ++ [request] }

/-- Continues with a loader and carries out its effects. -/
def continueWith (p : Page) (next : Loader × List Effect) : Page :=
  next.2.foldl perform { p with loader := next.1 }

/-- Opens a page on an address. -/
def mount (kind : Kind) (address : AddressBar) : Page :=
  Page.continueWith { loader := { kind }, address } (Loader.mount kind address.query)

def change (p : Page) (c : Change) : Page := p.continueWith (p.loader.change c)

def reload (p : Page) : Page := p.continueWith p.loader.reload

def complete (p : Page) (generation : Nat) (result : FetchResult) : Page × Bool :=
  let (loader, applied) := p.loader.complete generation result
  ({ p with loader }, applied)

end Page

end BenchCompare
