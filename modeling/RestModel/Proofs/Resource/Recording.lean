import RestModel.Proofs.Path.Resource
import RestModel.Proofs.Resource.Replay

/-!
# The paths that a walk records

A resource is reached through a chain of resources, each below the one before.  Its path is the base
path of the description joined with the paths along this chain.  So every path that a walk records,
be it on a type or in the report, is the joined path of such a chain.
-/

namespace RestModel.Resource

open Xml

/-- The path that a resource adds to that of its parent. -/
def ownPath (resource : Element) : String :=
  (resource.attribute? "path").getD ""

/-- One resource leads to another one through a chain of nested resources, given by the paths that
these add, the first and the last one included. -/
inductive Leads : Element → List String → Element → Prop where
  | stay (resource : Element) : Leads resource [ownPath resource] resource
  | descend {resource child target : Element} {chain : List String}
      (hchild : child ∈ resource.childrenNamed "resource") (hrest : Leads child chain target) :
      Leads resource (ownPath resource :: chain) target

/-- The chain leads from the base URL of a description to one of its resources. -/
def IsChainOf (application : Element) (url : String) (chain : List String) : Prop :=
  ∃ resources, application.child? "resources" = some resources ∧
    (resources.attribute? "base").getD "" = url ∧
    ∃ outermost ∈ resources.childrenNamed "resource", ∃ target, Leads outermost chain target

/-- A walk records the path: it declares a new method of it on a type or reports it. -/
def Records (registry : Registry) (walked : Progress) (path : String) : Prop :=
  (∃ type ∈ walked.registry.types, ∃ method, type.hasMethod method path = true ∧
    ∀ old ∈ registry.types, old.name = type.name → old.hasMethod method path = false) ∨
  path ∈ walked.report.unregistered.map Prod.fst

theorem mem_resources_iff {parent resource : Element} :
    resource ∈ parent.childrenNamed "resource" ↔
      resource ∈ parent.children ∧ resource.localName = "resource" := by
  rw [Element.childrenNamed, List.mem_filter, beq_iff_eq]

theorem leads_iff {resource target : Element} {chain : List String} :
    Leads resource chain target ↔ ∃ rest, chain = ownPath resource :: rest ∧
      (rest = [] ∧ target = resource ∨
        ∃ child ∈ resource.childrenNamed "resource", Leads child rest target) := by
  constructor
  · intro hleads
    cases hleads with
    | stay => exact ⟨[], rfl, Or.inl ⟨rfl, rfl⟩⟩
    | descend hchild hrest => exact ⟨_, rfl, Or.inr ⟨_, hchild, hrest⟩⟩
  · rintro ⟨rest, rfl, ⟨rfl, rfl⟩ | ⟨child, hchild, hrest⟩⟩
    · exact .stay target
    · exact .descend hchild hrest

mutual

/-- The located resources are those that chains lead to. -/
theorem mem_located_iff (parent : String) (resource : Element) {place : String × Element} :
    place ∈ located parent resource ↔
      ∃ chain, Leads resource chain place.2 ∧ place.1 = chain.foldl Path.append parent := by
  obtain ⟨name, attributes, children, text⟩ := resource
  rw [located, List.mem_cons, mem_locatedAmong_iff _ children]
  constructor
  · rintro (rfl | ⟨child, hchild, hresource, chain, hleads, hpath⟩)
    · exact ⟨_, .stay _, rfl⟩
    · exact ⟨_, .descend (mem_resources_iff.mpr ⟨hchild, hresource⟩) hleads, hpath⟩
  · rintro ⟨chain, hleads, hpath⟩
    obtain ⟨rest, rfl, ⟨rfl, htarget⟩ | ⟨child, hchild, hrest⟩⟩ := leads_iff.mp hleads
    · exact Or.inl (Prod.ext hpath htarget)
    · obtain ⟨hmem, hresource⟩ := mem_resources_iff.mp hchild
      exact Or.inr ⟨child, hmem, hresource, rest, hrest, hpath⟩

theorem mem_locatedAmong_iff (parent : String) (nodes : List Element)
    {place : String × Element} :
    place ∈ locatedAmong parent nodes ↔ ∃ node ∈ nodes, node.localName = "resource" ∧
      ∃ chain, Leads node chain place.2 ∧ place.1 = chain.foldl Path.append parent := by
  cases nodes with
  | nil => simp [locatedAmong]
  | cons node rest =>
      rw [locatedAmong, List.mem_append, mem_locatedAmong_iff parent rest, List.exists_mem_cons_iff]
      apply or_congr_left
      by_cases hresource : node.localName = "resource"
      · rw [if_pos hresource, mem_located_iff parent node]
        exact (and_iff_right hresource).symm
      · simp [hresource]

end

theorem path_of_mem_annotationsAt {statuses : List String} {place : String × Element}
    {entry : Annotation} (hmem : entry ∈ annotationsAt statuses place) : entry.path = place.1 := by
  obtain ⟨method, -, hentry⟩ := List.mem_flatMap.mp hmem
  obtain ⟨name, -, hentry⟩ := List.mem_flatMap.mp hentry
  obtain ⟨element, -, rfl⟩ := List.mem_map.mp hentry
  rfl

/-- The path of an annotation is that of a chain of resources of the description. -/
theorem exists_chain_of_mem_annotations {statuses : List String} {application : Element}
    {entry : Annotation} (hmem : entry ∈ annotations statuses application) :
    ∃ url chain, IsChainOf application url chain ∧
      entry.path = chain.foldl Path.append (Path.base url) := by
  rw [annotations] at hmem
  cases hresources : application.child? "resources" with
  | none => simp [hresources] at hmem
  | some resources =>
      rw [hresources] at hmem
      obtain ⟨place, hplace, hentry⟩ := List.mem_flatMap.mp hmem
      obtain ⟨outermost, hnode, hresource, chain, hleads, hpath⟩ :=
        (mem_locatedAmong_iff _ _).mp hplace
      have houtermost : outermost ∈ resources.childrenNamed "resource" :=
        mem_resources_iff.mpr ⟨hnode, hresource⟩
      refine ⟨_, chain, ⟨resources, hresources, rfl, outermost, houtermost, _, hleads⟩, ?_⟩
      rw [← hpath]
      exact path_of_mem_annotationsAt hentry

/-- What a walk records is the path of an annotation. -/
theorem exists_annotation_of_records {registry : Registry} {statuses : List String}
    {application : Element} {path : String}
    (hrecords : Records registry (collect registry statuses application) path) :
    ∃ entry ∈ annotations statuses application, entry.path = path := by
  rw [collect_eq] at hrecords
  rcases hrecords with ⟨type, htype, method, hmethod, hnew⟩ | hreported
  · rw [types_foldl_declare] at htype
    obtain ⟨old, hold, rfl⟩ := List.mem_map.mp htype
    rcases (hasMethod_replay _).mp hmethod with hbefore | hannotated
    · rw [hnew old hold (name_replay _ old).symm] at hbefore
      exact absurd hbefore Bool.false_ne_true
    · exact ⟨_, hannotated, rfl⟩
  · rw [List.map_map] at hreported
    obtain ⟨entry, hentry, rfl⟩ := List.mem_map.mp hreported
    exact ⟨entry, (List.mem_filter.mp hentry).1, rfl⟩

/-- The path of a chain of resources is the base path with all paths of the chain, joined at once
and with single slashes.  It begins with a slash and never has two slashes in a row, and a base path
ends with a slash too.  So each path that a walk over a description records has this form. -/
theorem recorded_paths_are_joined (url : String) (chain : List String) (registry : Registry)
    (statuses : List String) (application : Element) :
    chain.foldl Path.append (Path.base url) = Path.joined (Path.base url) chain ∧
    Path.IsRooted (Path.joined (Path.base url) chain) ∧
    (Path.base url).toList.getLast? = some '/' ∧
    ∀ path, Records registry (collect registry statuses application) path →
      Path.IsRooted path ∧ ∃ url chain, IsChainOf application url chain ∧
        path = Path.joined (Path.base url) chain := by
  have hjoined : ∀ url chain,
      chain.foldl Path.append (Path.base url) = Path.joined (Path.base url) chain :=
    fun url chain => Path.foldl_append_eq_joined (Path.collapse_base url) chain
  have hrooted : ∀ url chain, Path.IsRooted (Path.joined (Path.base url) chain) := by
    intro url chain
    rw [← hjoined]
    exact Path.isRooted_foldl_append (Path.isRooted_base url) chain
  refine ⟨hjoined url chain, hrooted url chain, Path.getLast?_base url, ?_⟩
  intro path hrecords
  obtain ⟨entry, hentry, rfl⟩ := exists_annotation_of_records hrecords
  obtain ⟨url, chain, hchain, hpath⟩ := exists_chain_of_mem_annotations hentry
  rw [hpath, hjoined]
  exact ⟨hrooted url chain, url, chain, hchain, rfl⟩

/-- A description with slashes at many places, and a resource that adds nothing to its path. -/
def roomsDescription : Element :=
  ⟨"application", [], [⟨"resources", [("base", "https://host:8443//api/rest/")], [
    ⟨"resource", [("path", "/rooms//")], [
      ⟨"resource", [("path", "/")], [
        ⟨"resource", [("path", "\x7bid\x7d/seats")], [
          ⟨"method", [("name", "GET")], [
            ⟨"response", [("status", "200")], [
              ⟨"representation", [("element", "plcm-seats")], [], ""⟩], ""⟩], ""⟩], ""⟩], ""⟩], ""⟩],
    ""⟩], ""⟩

/-- The seats of a room are recorded for their type. -/
theorem isRooted_roomsDescription :
    Path.joined (Path.base "https://host:8443//api/rest/") ["/rooms//", "/", "\x7bid\x7d/seats"] =
      "/api/rest/rooms/\x7bid\x7d/seats" ∧
    Records (Registry.empty.insert (TypeDef.named "plcm-seats" "" ""))
      (collect (Registry.empty.insert (TypeDef.named "plcm-seats" "" "")) ["200"] roomsDescription)
      "/api/rest/rooms/\x7bid\x7d/seats" ∧
    Path.IsRooted "/api/rest/rooms/\x7bid\x7d/seats" := by
  have hwalked : (collect (Registry.empty.insert (TypeDef.named "plcm-seats" "" "")) ["200"]
      roomsDescription).registry.types.map (·.hasMethod "GET" "/api/rest/rooms/\x7bid\x7d/seats") =
        [true] := by decide +kernel
  obtain ⟨type, htype, hmethod⟩ := List.mem_map.mp (hwalked ▸ List.mem_singleton_self true)
  have hrecords : Records (Registry.empty.insert (TypeDef.named "plcm-seats" "" ""))
      (collect (Registry.empty.insert (TypeDef.named "plcm-seats" "" "")) ["200"] roomsDescription)
      "/api/rest/rooms/\x7bid\x7d/seats" := by
    refine Or.inl ⟨type, htype, "GET", hmethod, fun old hold _ => ?_⟩
    obtain rfl := List.mem_singleton.mp hold
    rfl
  exact ⟨by decide +kernel, hrecords, ((recorded_paths_are_joined "" [] _ _ _).2.2.2 _ hrecords).1⟩

end RestModel.Resource
