import StoreSchema.Proofs.Json.Sameness
import StoreSchema.Proofs.Types.Forests
import StoreSchema.Wire.Record

/-! # Canonical plain documents

In canonical form a plain document has every declared member and no other key, and its open maps
have lists only. The canonical form of a document that has this form already is the document.
-/

namespace StoreSchema

/-! ## Canonical form -/

/-- A value as a list: a list stays, any other value is wrapped. -/
def Json.listed : Json → Json
  | .arr items => .arr items
  | value => .arr [value]

theorem Json.listed_listed (raw : Json) : raw.listed.listed = raw.listed := by
  cases raw <;> rfl

namespace Forest

mutual

/-- The canonical form of an object of a type. Open maps have a list under every key, keys in
    ascending order; records have every member that is declared, in the order of declaration. -/
def canonical (forest : Forest) (type : String) (plain : Json) : Json :=
  match plain with
  | .obj entries =>
    match (forest.find? type).map Definition.body with
    | some .openMap => .obj ((Keyed.table entries).map fun entry => (entry.1, entry.2.listed))
    | some (.record members) => .obj (canonicalMembers forest entries members)
    | _ => .obj entries
  | value => value
termination_by (sizeOf plain, 0)

/-- The members of a record in canonical form, `null` where there is none. -/
def canonicalMembers (forest : Forest) (entries : List (String × Json)) :
    List Member → List (String × Json)
  | [] => []
  | member :: rest =>
    match found : entries.lookup member.name with
    | none => (member.name, .null) :: canonicalMembers forest entries rest
    | some value =>
      have := Keyed.sizeOf_lt_of_lookup found
      (member.name, canonicalValue forest member.child? value) ::
        canonicalMembers forest entries rest
termination_by members => (sizeOf entries, members.length)

/-- The canonical form of what a member holds: leaves stay, records have a form of their own. -/
def canonicalValue (forest : Forest) (child : Option String) (value : Json) : Json :=
  match child with
  | none => value
  | some type =>
    match value with
    | .arr items => .arr (canonicalItems forest type items)
    | plain => canonical forest type plain
termination_by (sizeOf value, 1)

/-- The canonical forms of items of a type. -/
def canonicalItems (forest : Forest) (type : String) : List Json → List Json
  | [] => []
  | item :: rest => canonical forest type item :: canonicalItems forest type rest
termination_by items => (sizeOf items, 0)

end

variable {forest : Forest} {path type : String} {member : Member}

theorem canonicalValue_null (child : Option String) :
    canonicalValue forest child .null = .null := by
  cases child with
  | none => rw [canonicalValue]
  | some type => simp [canonicalValue, canonical]

theorem canonicalMembers_eq (entries : List (String × Json)) (members : List Member) :
    canonicalMembers forest entries members = members.map fun member =>
      (member.name,
        canonicalValue forest member.child? ((entries.lookup member.name).getD .null)) := by
  induction members with
  | nil => rw [canonicalMembers, List.map_nil]
  | cons member rest ih =>
      rw [canonicalMembers, List.map_cons, ← ih]
      split
      next absent => rw [absent, Option.getD_none, canonicalValue_null]
      next value found => simp only [found, Option.getD_some]

theorem canonical_openMap {definition : Definition}
    (found : forest.find? type = some definition) (body : definition.body = .openMap)
    (entries : List (String × Json)) :
    forest.canonical type (.obj entries) =
      .obj ((Keyed.table entries).map fun entry => (entry.1, entry.2.listed)) := by
  rw [canonical, found, Option.map_some, body]

theorem canonical_record {definition : Definition} {members : List Member}
    (found : forest.find? type = some definition) (body : definition.body = .record members)
    (entries : List (String × Json)) :
    forest.canonical type (.obj entries) = .obj (members.map fun member =>
      (member.name,
        canonicalValue forest member.child? ((entries.lookup member.name).getD .null))) := by
  rw [canonical, found, Option.map_some, body, ← canonicalMembers_eq]

/-! ## Canonical documents -/

mutual

/-- A document is in canonical form already: an open map with a list under every key, or a record
    with the declared members and no other. -/
inductive IsCanonical (forest : Forest) : String → Json → Prop where
  | openMap {type : String} {definition : Definition} {entries : List (String × Json)}
      (found : forest.find? type = some definition) (body : definition.body = .openMap)
      (once : (entries.map Prod.fst).Nodup)
      (lists : ∀ value ∈ entries.map Prod.snd, value.listed = value) :
      IsCanonical forest type (.obj entries)
  | record {type : String} {definition : Definition} {members : List Member}
      {entries : List (String × Json)} (found : forest.find? type = some definition)
      (body : definition.body = .record members)
      (keys : ∀ name, name ∈ entries.map Prod.fst ↔ name ∈ members.map Member.name)
      (values : ∀ member ∈ members, ∀ value, entries.lookup member.name = some value →
        IsCanonicalValue forest member.child? value) :
      IsCanonical forest type (.obj entries)

/-- What a member holds is in canonical form: a leaf, or `null`, a record or a list of records. -/
inductive IsCanonicalValue (forest : Forest) : Option String → Json → Prop where
  | leaf {value : Json} : IsCanonicalValue forest none value
  | null {type : String} : IsCanonicalValue forest (some type) .null
  | one {type : String} {plain : Json} (canonical : IsCanonical forest type plain) :
      IsCanonicalValue forest (some type) plain
  | many {type : String} {items : List Json}
      (canonical : ∀ item ∈ items, IsCanonical forest type item) :
      IsCanonicalValue forest (some type) (.arr items)

end

/-! ## Canonical documents stay -/

section

variable {config : Config} {root : String} {properties : Properties}

theorem lookup_members {members : List Member} (once : (members.map Member.name).Nodup)
    (value : Member → Json) (inside : member ∈ members) :
    (members.map fun member => (member.name, value member)).lookup member.name =
      some (value member) := by
  refine Keyed.lookup_of_mem ?_ (List.mem_map_of_mem inside)
  rw [List.map_map]
  exact once

theorem openMap_stays {definition : Definition} (found : forest.find? type = some definition)
    (body : definition.body = .openMap) {entries : List (String × Json)}
    (once : (entries.map Prod.fst).Nodup)
    (lists : ∀ value ∈ entries.map Prod.snd, value.listed = value) :
    (forest.canonical type (.obj entries)).Same (.obj entries) := by
  rw [canonical_openMap found body]
  refine .obj fun key => congrArg (Option.map Json.sortKeys) ?_
  rw [Keyed.lookup_map_value, Keyed.lookup_table once]
  cases value : entries.lookup key with
  | none => rfl
  | some raw =>
      exact congrArg some (lists raw (List.mem_map_of_mem (Keyed.mem_of_lookup value)))

theorem record_stays {definition : Definition} {members : List Member}
    (found : forest.find? type = some definition) (body : definition.body = .record members)
    (once : (members.map Member.name).Nodup) {entries : List (String × Json)}
    (keys : ∀ name, name ∈ entries.map Prod.fst ↔ name ∈ members.map Member.name)
    (values : ∀ member ∈ members, ∀ value, entries.lookup member.name = some value →
      (canonicalValue forest member.child? value).Same value) :
    (forest.canonical type (.obj entries)).Same (.obj entries) := by
  rw [canonical_record found body]
  refine .obj fun key => ?_
  by_cases declared : key ∈ members.map Member.name
  · obtain ⟨value, held⟩ := Keyed.exists_lookup ((keys key).mpr declared)
    obtain ⟨member, inside, rfl⟩ := List.mem_map.mp declared
    rw [lookup_members once _ inside, held]
    exact congrArg some (values member inside value held)
  · have outside : key ∉ (members.map fun member => (member.name,
        canonicalValue forest member.child? ((entries.lookup member.name).getD .null))).map
          Prod.fst := by
      rw [List.map_map]
      exact declared
    rw [Keyed.lookup_eq_none_of_not_mem outside,
      Keyed.lookup_eq_none_of_not_mem fun inside => declared ((keys key).mp inside)]

mutual

/-- The canonical form of a document in canonical form is the document. -/
theorem IsCanonical.stays (ordered : properties.Ordered)
    (compiled : Forest.ofProperties config root properties = .ok forest) (type : String)
    (plain : Json) (canonical : forest.IsCanonical type plain) :
    (forest.canonical type plain).Same plain := by
  match plain, canonical with
  | .obj entries, .openMap found body once lists => exact openMap_stays found body once lists
  | .obj entries, @IsCanonical.record _ _ _ members _ found body keys values =>
      have once := names_nodup ordered compiled (List.mem_of_find?_eq_some found) body
      refine record_stays found body once keys fun member inside value held => ?_
      have smaller := Keyed.sizeOf_lt_of_lookup held
      exact IsCanonicalValue.stays ordered compiled member.child? value
        (values member inside value held)
termination_by (sizeOf plain, 0)

theorem IsCanonicalValue.stays (ordered : properties.Ordered)
    (compiled : Forest.ofProperties config root properties = .ok forest) (child : Option String)
    (value : Json) (canonical : forest.IsCanonicalValue child value) :
    (canonicalValue forest child value).Same value := by
  match child, value, canonical with
  | none, value, .leaf =>
      rw [canonicalValue]
      exact .refl value
  | some type, .null, _ =>
      rw [canonicalValue_null]
      exact .refl .null
  | some type, .obj entries, .one canonical =>
      rw [canonicalValue]
      · exact IsCanonical.stays ordered compiled type (.obj entries) canonical
      · simp
  | some type, .arr items, .many each =>
      rw [canonicalValue]
      exact congrArg Json.arr (IsCanonical.items_stay ordered compiled type items each)
termination_by (sizeOf value, 1)

theorem IsCanonical.items_stay (ordered : properties.Ordered)
    (compiled : Forest.ofProperties config root properties = .ok forest) (type : String)
    (items : List Json) (each : ∀ item ∈ items, forest.IsCanonical type item) :
    Json.sortItems (canonicalItems forest type items) = Json.sortItems items := by
  match items with
  | [] => rw [canonicalItems]
  | item :: rest =>
      obtain ⟨first, later⟩ := List.forall_mem_cons.mp each
      have same := IsCanonical.stays ordered compiled type item first
      have restSame := IsCanonical.items_stay ordered compiled type rest later
      rw [canonicalItems, Json.sortItems, Json.sortItems, restSame]
      exact congrArg (· :: Json.sortItems rest) same
termination_by (sizeOf items, 0)

end

end

end Forest

end StoreSchema
