import BenchCompare.Query.Basic

/-!
# The address bar

The query string of a page, with the queries that were left, oldest first. At most `AddressBar.limit` of them
are kept.
-/

namespace BenchCompare

structure AddressBar where
  page : String
  query : String
  back : List String := []
deriving DecidableEq, Repr

namespace AddressBar

/-- The number of queries kept. -/
def limit : Nat := 64

/-- The address bar of a page that has just been opened. -/
def ofQuery (page query : String) : AddressBar := { page, query := Query.clean query }

/-- Moves to another query. -/
def navigate (a : AddressBar) (query : String) : AddressBar :=
  if query = a.query then a
  else
    let back := a.back ++ [a.query]
    { a with query, back := back.drop (back.length - limit) }

/-- The link that leads back to this page. -/
def shareUrl (a : AddressBar) : String :=
  if a.query = "" then a.page else a.page ++ "?" ++ a.query

end AddressBar

end BenchCompare
