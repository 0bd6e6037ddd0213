import RestModel.Naming
import RestModel.OrderedMap
import RestModel.Path.Module

/-!
# Collection endpoints

A collection can be read on several paths, and each of these endpoints needs a name of its own.  The
shortest path has the empty suffix.  Every other one is named by its segments behind the beginning
that all paths share, with parameters left out: `/users` and `/groups/{id}/users` have the
suffixes `""` and `GroupsUsers`.  Two paths may still end up with one suffix; such a collision is
reported and both endpoints are kept.
-/

namespace RestModel

/-- A path on which a collection can be read, with the suffix that names it. -/
structure Endpoint where
  suffix : String
  path : String
  deriving DecidableEq

/-- Two paths of one collection with the same suffix. -/
structure Collision where
  typeName : String
  suffix : String
  firstPath : String
  secondPath : String
  deriving DecidableEq

/-- The endpoints of one collection and the collisions among their suffixes. -/
structure Endpoints where
  endpoints : List Endpoint
  collisions : List Collision

namespace Endpoints

/-- The segments of the paths that declare the method, in map order. -/
def readSegments (paths : OrderedMap String (List String)) (readMethod : String) :
    List (List String) :=
  (paths.entries.filter (fun entry => entry.2.contains readMethod)).map
    (fun entry => Path.segments entry.1)

/-- Lists ordered by their length; lists of one length keep their order. -/
def sortByLength (paths : List (List String)) : List (List String) :=
  paths.mergeSort (fun left right => left.length ≤ right.length)

/-- The number of leading segments of `shortest` that stand at the same place in every path. -/
def commonLength : List String → List (List String) → Nat
  | [], _ => 0
  | segment :: rest, paths =>
    if paths.all (fun path => path.head? == some segment) then
      commonLength rest (paths.map List.tail) + 1
    else 0

/-- The suffix made of the segments of a path behind the common beginning. -/
def suffixOf (common : Nat) (path : List String) : String :=
  "".intercalate (((path.drop common).filter (!Naming.isParameter ·)).map
    (fun segment => Naming.camelCase (Naming.capitalize segment)))

/-- The endpoints of sorted paths: the first has the empty suffix. -/
def named : List (List String) → List Endpoint
  | [] => []
  | shortest :: others =>
    let common := commonLength shortest (shortest :: others)
    ⟨"", Path.ofSegments shortest⟩ ::
      others.map (fun path => ⟨suffixOf common path, Path.ofSegments path⟩)

/-- The collisions of endpoints with the endpoints before them, where `seen` holds the first
endpoint of every suffix so far. -/
def collisionsFrom (typeName : String) : List Endpoint → List Endpoint → List Collision
  | _, [] => []
  | seen, endpoint :: rest =>
    match seen.find? (·.suffix == endpoint.suffix) with
    | some first =>
      ⟨typeName, endpoint.suffix, first.path, endpoint.path⟩ :: collisionsFrom typeName seen rest
    | none => collisionsFrom typeName (seen ++ [endpoint]) rest

/-- The endpoints of a collection, one for every path that declares the read method. -/
def ofPaths (typeName : String) (paths : OrderedMap String (List String)) (readMethod : String) :
    Endpoints :=
  let endpoints := named (sortByLength (readSegments paths readMethod))
  ⟨endpoints, collisionsFrom typeName [] endpoints⟩

end Endpoints

end RestModel
