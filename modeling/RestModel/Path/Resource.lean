/-!
# Resource paths

The path of a resource is built from the outside inwards: the base URL of the description gives a
first path, and each nested resource adds its own.  The result never holds two slashes in a row.
-/

namespace RestModel.Path

/-- Write every run of slashes as one slash. -/
def collapse : List Char → List Char
  | [] => []
  | [char] => [char]
  | first :: second :: rest =>
    if first = '/' ∧ second = '/' then collapse (second :: rest)
    else first :: collapse (second :: rest)

/-- The part of a URL behind its `http` or `https` scheme, if it starts with one. -/
def afterScheme (url : List Char) : List Char :=
  match "http://".toList.isPrefixOf? url with
  | some rest => rest
  | none => ("https://".toList.isPrefixOf? url).getD url

/-- The path of a base URL, without scheme and host and with one slash at its end:
`http://host:8443/api/rest` has the base path `/api/rest/`. -/
def base (url : String) : String :=
  String.ofList (collapse ((afterScheme url.toList).dropWhile (· != '/') ++ ['/']))

/-- The path of a resource below another one.  A child path that is empty or a lone slash adds
nothing. -/
def append (parent child : String) : String :=
  if child = "" ∨ child = "/" then parent
  else String.ofList (collapse (parent.toList ++ '/' :: child.toList))

end RestModel.Path
