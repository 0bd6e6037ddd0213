import Mathlib.Data.List.Pairwise
import RestModel.Proofs.Schema.Registration

/-!
# The places of complex types

A node has an address, the numbers of the children on the way down to it.  The place of a complex
type is the address of the node it stands in together with its own number there.  Places are in
order: a node before the nodes below it, these in the order of their numbers, and the types of one
node in the order of theirs.  The complex types of a schema are listed in the order of their places,
one for each place.
-/

namespace RestModel.Schema

open Xml

/-- Where a complex type stands: the address of its node, and its number among the children there. -/
structure Place where
  address : List Nat
  number : Nat

/-- One place comes before another: its node does, or they are in one node and its number is
smaller.  A node comes before the nodes below it. -/
def Place.ComesBefore (left right : Place) : Prop :=
  List.Lex (· < ·) left.address right.address ∨
    left.address = right.address ∧ left.number < right.number

theorem Place.ComesBefore.ne {left right : Place} (hbefore : left.ComesBefore right) :
    left ≠ right := by
  rintro rfl
  rcases hbefore with hlex | ⟨-, hsmaller⟩
  · exact List.lex_irrefl Nat.lt_irrefl left.address hlex
  · exact Nat.lt_irrefl left.number hsmaller

/-- The node that an address leads to through elements only. -/
def nodeAt? : Element → List Nat → Option Element
  | node, [] => some node
  | node, number :: rest =>
    (node.children[number]?.filter (·.localName == "element")).bind (nodeAt? · rest)

/-- The complex type at a place, with the node it stands in. -/
def placedAt? (schema : Element) (place : Place) : Option PlacedType :=
  (nodeAt? schema place.address).bind (fun parent =>
    (parent.children[place.number]?.filter (·.localName == "complexType")).map (⟨parent, ·⟩))

/-! ## Nodes with their addresses -/

mutual

/-- The nodes below which complex types are looked for, each with its address. -/
def addressedFrom : Element → List (List Nat × Element)
  | ⟨name, attributes, children, text⟩ =>
    ([], ⟨name, attributes, children, text⟩) :: addressedAmong 0 children

/-- The nodes from the elements among some nodes on, where the first node has a given number. -/
def addressedAmong (number : Nat) : List Element → List (List Nat × Element)
  | [] => []
  | node :: rest =>
    (if node.localName = "element" then
      (addressedFrom node).map (fun entry => (number :: entry.1, entry.2)) else []) ++
      addressedAmong (number + 1) rest

end

mutual

theorem map_snd_addressedFrom : ∀ node : Element,
    (addressedFrom node).map Prod.snd = nodesFrom node
  | ⟨name, attributes, children, text⟩ => by
    rw [addressedFrom, nodesFrom, List.map_cons, map_snd_addressedAmong 0 children]

theorem map_snd_addressedAmong : ∀ (number : Nat) (nodes : List Element),
    (addressedAmong number nodes).map Prod.snd = nodesFromElements nodes
  | _, [] => rfl
  | number, node :: rest => by
    rw [addressedAmong, nodesFromElements, List.map_append,
      map_snd_addressedAmong (number + 1) rest]
    split
    · rw [List.map_map, ← map_snd_addressedFrom node]
      rfl
    · rfl

end

mutual

/-- A node has the address that leads to it. -/
theorem mem_addressedFrom_iff (node : Element) {entry : List Nat × Element} :
    entry ∈ addressedFrom node ↔ nodeAt? node entry.1 = some entry.2 := by
  obtain ⟨name, attributes, children, text⟩ := node
  obtain ⟨address, target⟩ := entry
  rw [addressedFrom, List.mem_cons, mem_addressedAmong_iff 0 children]
  cases address with
  | nil => simp [nodeAt?, eq_comm]
  | cons number rest => simp [nodeAt?]

theorem mem_addressedAmong_iff (start : Nat) (nodes : List Element)
    {entry : List Nat × Element} : entry ∈ addressedAmong start nodes ↔
      ∃ number rest, entry.1 = (start + number) :: rest ∧
        (nodes[number]?.filter (·.localName == "element")).bind (nodeAt? · rest) =
          some entry.2 := by
  cases nodes with
  | nil => simp [addressedAmong]
  | cons node others =>
      rw [addressedAmong, List.mem_append, mem_addressedAmong_iff (start + 1) others]
      constructor
      · rintro (hfirst | ⟨number, rest, haddress, htarget⟩)
        · split at hfirst
          · next helement =>
            obtain ⟨inner, hinner, rfl⟩ := List.mem_map.mp hfirst
            refine ⟨0, inner.1, rfl, Option.bind_eq_some_iff.mpr ⟨node, ?_, ?_⟩⟩
            · exact Option.filter_eq_some_iff.mpr ⟨rfl, beq_iff_eq.mpr helement⟩
            · exact (mem_addressedFrom_iff node).mp hinner
          · exact absurd hfirst List.not_mem_nil
        · exact ⟨number + 1, rest, by rw [haddress, Nat.add_right_comm, Nat.add_assoc], htarget⟩
      · rintro ⟨number, rest, haddress, htarget⟩
        cases number with
        | zero =>
            rw [List.getElem?_cons_zero] at htarget
            obtain ⟨first, hfirst, hinner⟩ := Option.bind_eq_some_iff.mp htarget
            obtain ⟨hsame, helement⟩ := Option.filter_eq_some_iff.mp hfirst
            obtain rfl := Option.some.inj hsame
            rw [if_pos (beq_iff_eq.mp helement), List.mem_map]
            exact Or.inl ⟨(rest, entry.2), (mem_addressedFrom_iff node).mpr hinner,
              Prod.ext haddress.symm rfl⟩
        | succ number =>
            exact Or.inr ⟨number, rest, by rw [haddress, Nat.add_right_comm, Nat.add_assoc],
              htarget⟩

end

/-- An address that begins with a number comes before those that begin with a later one. -/
theorem lex_of_mem_addressedAmong {start number : Nat} {nodes : List Element}
    {rest : List Nat} {entry : List Nat × Element} (hmem : entry ∈ addressedAmong start nodes)
    (hearlier : number < start) : List.Lex (· < ·) (number :: rest) entry.1 := by
  obtain ⟨other, others, haddress, -⟩ := (mem_addressedAmong_iff start nodes).mp hmem
  rw [haddress]
  exact .rel (by omega)

mutual

theorem pairwise_addressedFrom (node : Element) :
    (addressedFrom node).Pairwise (fun left right => List.Lex (· < ·) left.1 right.1) := by
  obtain ⟨name, attributes, children, text⟩ := node
  rw [addressedFrom, List.pairwise_cons]
  refine ⟨?_, pairwise_addressedAmong 0 children⟩
  intro entry hentry
  obtain ⟨number, rest, haddress, -⟩ := (mem_addressedAmong_iff 0 children).mp hentry
  rw [haddress]
  exact .nil

theorem pairwise_addressedAmong (start : Nat) (nodes : List Element) :
    (addressedAmong start nodes).Pairwise
      (fun left right => List.Lex (· < ·) left.1 right.1) := by
  cases nodes with
  | nil => exact .nil
  | cons node rest =>
      rw [addressedAmong, List.pairwise_append]
      refine ⟨?_, pairwise_addressedAmong (start + 1) rest, ?_⟩
      · split
        · rw [List.pairwise_map]
          exact (pairwise_addressedFrom node).imp fun hbefore => .cons hbefore
        · exact .nil
      · intro left hleft right hright
        split at hleft
        · obtain ⟨inner, -, rfl⟩ := List.mem_map.mp hleft
          exact lex_of_mem_addressedAmong hright (Nat.lt_succ_self start)
        · exact absurd hleft List.not_mem_nil

end

/-! ## Complex types with their places -/

/-- The complex types of a node, with their numbers among its children. -/
def numberedTypes (node : Element) : List (Element × Nat) :=
  node.children.zipIdx.filter (fun entry => entry.1.localName == "complexType")

/-- The complex types of a schema in order, each with its place. -/
def definitions (schema : Element) : List (Place × PlacedType) :=
  (addressedFrom schema).flatMap (fun entry =>
    (numberedTypes entry.2).map (fun type => (⟨entry.1, type.2⟩, ⟨entry.2, type.1⟩)))

theorem map_fst_numberedTypes (node : Element) :
    (numberedTypes node).map Prod.fst = node.childrenNamed "complexType" := by
  rw [Element.childrenNamed, ← List.zipIdx_map_fst 0 node.children, List.filter_map]
  rfl

theorem mem_numberedTypes_iff {node complex : Element} {number : Nat} :
    (complex, number) ∈ numberedTypes node ↔
      node.children[number]?.filter (·.localName == "complexType") = some complex := by
  rw [numberedTypes, List.mem_filter, List.mem_zipIdx_iff_getElem?, Option.filter_eq_some_iff]

theorem map_snd_definitions (schema : Element) :
    (definitions schema).map Prod.snd = placedTypes schema := by
  rw [definitions, placedTypes, ← map_snd_addressedFrom, List.map_flatMap, List.flatMap_map]
  congr 1
  funext entry
  rw [← map_fst_numberedTypes, List.map_map, List.map_map]
  rfl

/-- A complex type has the place where it is found. -/
theorem mem_definitions_iff {schema : Element} {place : Place} {placed : PlacedType} :
    (place, placed) ∈ definitions schema ↔ placedAt? schema place = some placed := by
  rw [definitions, List.mem_flatMap, placedAt?, Option.bind_eq_some_iff]
  constructor
  · rintro ⟨⟨address, node⟩, hnode, hplaced⟩
    obtain ⟨⟨complex, number⟩, hcomplex, hsame⟩ := List.mem_map.mp hplaced
    obtain ⟨rfl, rfl⟩ := Prod.mk.inj hsame
    refine ⟨node, (mem_addressedFrom_iff schema).mp hnode, ?_⟩
    rw [mem_numberedTypes_iff.mp hcomplex, Option.map_some]
  · rintro ⟨node, hnode, hplaced⟩
    obtain ⟨complex, hcomplex, rfl⟩ := Option.map_eq_some_iff.mp hplaced
    refine ⟨(place.address, node), (mem_addressedFrom_iff schema).mpr hnode, ?_⟩
    exact List.mem_map.mpr ⟨(complex, place.number), mem_numberedTypes_iff.mpr hcomplex, rfl⟩

theorem pairwise_numberedTypes (node : Element) :
    (numberedTypes node).Pairwise (fun left right => left.2 < right.2) := by
  have hnumbers : (node.children.zipIdx.map Prod.snd).Pairwise (· < ·) := by
    rw [List.zipIdx_map_snd]
    exact List.pairwise_lt_range' 1
  exact (List.pairwise_map.mp hnumbers).filter _

/-- The complex types of a schema are in the order of their places. -/
theorem pairwise_definitions (schema : Element) :
    (definitions schema).Pairwise (fun left right => left.1.ComesBefore right.1) := by
  rw [definitions, List.pairwise_flatMap]
  constructor
  · intro entry _
    rw [List.pairwise_map]
    exact (pairwise_numberedTypes entry.2).imp fun hsmaller => Or.inr ⟨rfl, hsmaller⟩
  · apply (pairwise_addressedFrom schema).imp
    intro left right hbefore first hfirst second hsecond
    obtain ⟨_, -, rfl⟩ := List.mem_map.mp hfirst
    obtain ⟨_, -, rfl⟩ := List.mem_map.mp hsecond
    exact Or.inl hbefore

end RestModel.Schema
