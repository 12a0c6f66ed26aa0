import SentenceGraph.Value

/-!
# What values hold

The keys of the objects in a value, at all levels, and the quantities in it. Quantities can be
replaced, also by what is no quantity, such as their literals.
-/

namespace SentenceGraph.Value

variable {R S : Type}

mutual

/-- The keys of each object in a value are distinct. -/
def KeysDistinct : Value R → Prop
  | list items => ItemKeysDistinct items
  | object members => (members.map Prod.fst).Nodup ∧ MemberKeysDistinct members
  | _ => True

def ItemKeysDistinct : List (Value R) → Prop
  | [] => True
  | item :: rest => KeysDistinct item ∧ ItemKeysDistinct rest

def MemberKeysDistinct : List (String × Value R) → Prop
  | [] => True
  | (_, value) :: rest => KeysDistinct value ∧ MemberKeysDistinct rest

end

mutual

/-- The quantities in a value. -/
def reals : Value R → List R
  | real quantity => [quantity]
  | list items => itemReals items
  | object members => memberReals members
  | _ => []

def itemReals : List (Value R) → List R
  | [] => []
  | item :: rest => reals item ++ itemReals rest

def memberReals : List (String × Value R) → List R
  | [] => []
  | (_, value) :: rest => reals value ++ memberReals rest

end

mutual

/-- A value with other quantities in it. -/
def mapReals (change : R → S) : Value R → Value S
  | null => null
  | bool truth => bool truth
  | int number => int number
  | real quantity => real (change quantity)
  | text content => text content
  | list items => list (mapItemReals change items)
  | object members => object (mapMemberReals change members)

def mapItemReals (change : R → S) : List (Value R) → List (Value S)
  | [] => []
  | item :: rest => mapReals change item :: mapItemReals change rest

def mapMemberReals (change : R → S) : List (String × Value R) → List (String × Value S)
  | [] => []
  | (key, value) :: rest => (key, mapReals change value) :: mapMemberReals change rest

end

mutual

theorem mapReals_eq_self {change : R → R} :
    ∀ value : Value R, (∀ quantity ∈ value.reals, change quantity = quantity) →
      value.mapReals change = value
  | .real quantity, same => by simpa [mapReals, reals] using same
  | .list items, same => by
      rw [mapReals, mapItemReals_eq_self items (by simpa [reals] using same)]
  | .object members, same => by
      rw [mapReals, mapMemberReals_eq_self members (by simpa [reals] using same)]
  | .null, _ | .bool _, _ | .int _, _ | .text _, _ => by rw [mapReals]

theorem mapItemReals_eq_self {change : R → R} :
    ∀ items : List (Value R), (∀ quantity ∈ itemReals items, change quantity = quantity) →
      mapItemReals change items = items
  | [], _ => by rw [mapItemReals]
  | item :: rest, same => by
      simp only [itemReals, List.forall_mem_append] at same
      rw [mapItemReals, mapReals_eq_self item same.1, mapItemReals_eq_self rest same.2]

theorem mapMemberReals_eq_self {change : R → R} :
    ∀ members : List (String × Value R),
      (∀ quantity ∈ memberReals members, change quantity = quantity) →
      mapMemberReals change members = members
  | [], _ => by rw [mapMemberReals]
  | (key, value) :: rest, same => by
      simp only [memberReals, List.forall_mem_append] at same
      rw [mapMemberReals, mapReals_eq_self value same.1, mapMemberReals_eq_self rest same.2]

end

end SentenceGraph.Value
