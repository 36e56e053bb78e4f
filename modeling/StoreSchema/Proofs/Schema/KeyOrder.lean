import StoreSchema.Proofs.Json.Sameness
import StoreSchema.Proofs.Schema.Reading

/-! # Reading a mapping whatever the order of its keys

A mapping document is read in the order in which it stands, and the first fault ends the reading. So
the order of its keys decides which fault is met first, but neither whether there is one nor what is
read. All is compared with the document whose keys are sorted.
-/

namespace StoreSchema

/-! ## Schema trees -/

mutual

/-- The field with the keys of its parameters in ascending order, and so at every level of the
    tree. -/
def Node.sortKeys : Node → Node
  | .leaf kind params path => .leaf kind (Json.sortMembers params) path
  | .compound kind params path dynamic properties =>
    .compound kind (Json.sortMembers params) path dynamic (Properties.sortKeys properties)

/-- Declared fields with the keys of all parameters in ascending order. -/
def Properties.sortKeys : List (String × Node) → List (String × Node)
  | [] => []
  | (name, field) :: rest => (name, field.sortKeys) :: Properties.sortKeys rest

end

def Mapping.sortKeys (mapping : Mapping) : Mapping :=
  { mapping with properties := Properties.sortKeys mapping.properties }

/-- Two mappings are equal but for the order of the keys that their parameters hold. -/
def Mapping.Same (left right : Mapping) : Prop :=
  left.sortKeys = right.sortKeys

theorem Properties.sortKeys_eq (properties : Properties) :
    Properties.sortKeys properties = properties.map fun entry => (entry.1, entry.2.sortKeys) := by
  induction properties with
  | nil => rfl
  | cons entry rest ih => rw [Properties.sortKeys, ih, List.map_cons]

theorem Properties.sortKeys_insert (name : String) (field : Node) (properties : Properties) :
    Properties.sortKeys (Keyed.insert name field properties) =
      Keyed.insert name field.sortKeys (Properties.sortKeys properties) := by
  rw [sortKeys_eq, sortKeys_eq, Keyed.map_insert Node.sortKeys]

namespace Schema

/-! ## Descriptors -/

variable (path : FieldPath)

theorem kindOf_sortMembers (descriptor : List (String × Json)) :
    (kindOf path (Json.sortMembers descriptor)).toOption = (kindOf path descriptor).toOption := by
  unfold kindOf
  rw [Json.lookup_sortMembers]
  cases descriptor.lookup "type" with
  | none => rfl
  | some value => cases value <;> rfl

theorem dynamicOf_sortMembers (descriptor : List (String × Json)) :
    (dynamicOf path (Json.sortMembers descriptor)).toOption =
      (dynamicOf path descriptor).toOption := by
  unfold dynamicOf
  rw [Json.lookup_sortMembers]
  cases descriptor.lookup "dynamic" with
  | none => rfl
  | some value => cases value <;> rfl

theorem paramsOf_sortMembers (descriptor : List (String × Json)) :
    paramsOf (Json.sortMembers descriptor) = Json.sortMembers (paramsOf descriptor) := by
  have ascending : Keyed.Ascending (paramsOf (Json.sortMembers descriptor)) :=
    (Json.sortMembers_ascending descriptor).sublist (List.filter_sublist.map Prod.fst)
  have kept := Keyed.lookup_filter (α := Json)
    fun key => key != "type" && key != "properties" && key != "dynamic"
  refine ascending.ext (Json.sortMembers_ascending _) fun key => ?_
  rw [Json.lookup_sortMembers, paramsOf, paramsOf, kept, kept, Json.lookup_sortMembers]
  split <;> rfl

theorem declared_eq (descriptor : List (String × Json)) :
    declared path descriptor =
      match descriptor.lookup "properties" with
      | none | some .null => .ok []
      | some (.obj fields) => properties path fields
      | some _ => .error (.malformed path .propertiesNotObject) := by
  induction descriptor with
  | nil => rfl
  | cons entry rest ih =>
      obtain ⟨key, value⟩ := entry
      unfold declared
      by_cases same : key = "properties"
      · subst same
        rw [if_pos rfl, List.lookup_cons_self]
        cases value <;> rfl
      · rw [if_neg same, ih, Keyed.lookup_cons_of_ne (Ne.symm same)]

/-! ## Property maps -/

theorem properties_perm (parent : FieldPath) {left right : List (String × Json)}
    (perm : left.Perm right) (once : (left.map Prod.fst).Nodup) :
    (properties parent left).toOption = (properties parent right).toOption := by
  induction perm with
  | nil => rfl
  | cons entry perm ih =>
      simp only [properties, Outcome.toOption_bind, ih (List.nodup_cons.mp once).2]
  | swap first second rest =>
      have different : second.1 ≠ first.1 := by
        intro same
        simp [same] at once
      simp only [properties, Outcome.toOption_bind]
      cases (node (parent ++ [first.1]) first.2).toOption <;>
        cases (node (parent ++ [second.1]) second.2).toOption <;>
          cases (properties parent rest).toOption <;>
            simp [Keyed.insert_comm different]
  | trans one two ih later =>
      exact (ih once).trans (later ((one.map Prod.fst).nodup_iff.mp once))

mutual

/-- A descriptor with sorted keys is read where the descriptor itself is, and describes the same
    field. -/
theorem node_sortKeys (path : FieldPath) (descriptor : Json) (once : descriptor.KeysOnce) :
    (node path descriptor.sortKeys).toOption =
      (node path descriptor).toOption.map Node.sortKeys := by
  match descriptor with
  | .obj members =>
      have fields := declared_sortMembers path members once
      have kinds := kindOf_sortMembers path members
      have treatments := dynamicOf_sortMembers path members
      simp only [Json.sortKeys, node, Outcome.toOption_bind, kinds]
      cases (kindOf path members).toOption with
      | none => rfl
      | some kind =>
          simp only [Option.bind_some]
          split
          next compound =>
            simp only [Outcome.toOption_bind, treatments, fields, paramsOf_sortMembers]
            cases (dynamicOf path members).toOption <;>
              cases (declared path members).toOption <;> rfl
          next leaf =>
            rw [Json.lookup_sortMembers, Option.isSome_map, paramsOf_sortMembers]
            split <;> rfl
  | .null | .bool _ | .int _ | .float _ | .str _ | .arr _ => rfl

theorem declared_sortMembers (path : FieldPath) (descriptor : List (String × Json))
    (once : Json.MembersOnce descriptor) :
    (declared path (Json.sortMembers descriptor)).toOption =
      (declared path descriptor).toOption.map Properties.sortKeys := by
  match descriptor with
  | [] => rfl
  | (key, value) :: rest =>
      obtain ⟨-, valueOnce, restOnce⟩ := once
      have later := declared_sortMembers path rest restOnce
      rw [declared_eq, Json.lookup_sortMembers] at later ⊢
      by_cases same : key = "properties"
      · subst same
        rw [List.lookup_cons_self]
        unfold declared
        match value with
        | .obj fields => exact properties_sortMembers path fields valueOnce
        | .null | .bool _ | .int _ | .float _ | .str _ | .arr _ => rfl
      · rw [Keyed.lookup_cons_of_ne (Ne.symm same), later]
        conv => rhs; unfold declared
        rw [if_neg same]

theorem properties_sortMembers (parent : FieldPath) (fields : List (String × Json))
    (once : Json.MembersOnce fields) :
    (properties parent (Json.sortMembers fields)).toOption =
      (properties parent fields).toOption.map Properties.sortKeys := by
  match fields with
  | [] => rfl
  | (name, descriptor) :: rest =>
      obtain ⟨absent, descriptorOnce, restOnce⟩ := once
      have first := node_sortKeys (parent ++ [name]) descriptor descriptorOnce
      have later := properties_sortMembers parent rest restOnce
      have unsorted := Keyed.insert_perm descriptor.sortKeys (mt Json.mem_keys_sortMembers.mp absent)
      have ascending := (Json.sortMembers_ascending rest).insert name descriptor.sortKeys
      rw [Json.sortMembers, properties_perm parent unsorted ascending.nodup]
      simp only [properties, Outcome.toOption_bind, first, later]
      cases (node (parent ++ [name]) descriptor).toOption <;>
        cases (properties parent rest).toOption <;>
          simp [Properties.sortKeys_insert]

end

end Schema

namespace Mapping

/-! ## Wrappers -/

def Wrapper.sortKeys : Wrapper → Wrapper
  | .bare fields => .bare (Json.sortMembers fields)
  | .underProperties fields => .underProperties (Json.sortMembers fields)
  | .underMappings body => .underMappings body.sortKeys
  | .underIndex name body => .underIndex name body.sortKeys

theorem isObject_sortKeys (value : Json) : value.sortKeys.isObject = value.isObject := by
  cases value <;> rfl

theorem holdsProperties_sortKeys (value : Json) :
    holdsProperties value.sortKeys = holdsProperties value := by
  cases value with
  | obj members =>
      simp only [Json.sortKeys, holdsProperties, Json.lookup_sortMembers, Option.isNone_map,
        Option.map_map]
      cases members.lookup "properties" with
      | none => rfl
      | some fields => simp [isObject_sortKeys]
  | _ => rfl

theorem indexBody?_sortKeys (value : Json) :
    indexBody? value.sortKeys = (indexBody? value).map Json.sortKeys := by
  cases value with
  | obj members =>
      simp only [Json.sortKeys, indexBody?, Json.lookup_sortMembers, Option.isSome_map]
      split
      next => rfl
      next =>
        cases members.lookup "mappings" with
        | none => rfl
        | some body => cases held : holdsProperties body <;>
            simp [Option.filter, holdsProperties_sortKeys, held]
  | _ => rfl

theorem bodyFields_sortKeys {body : Json} (once : body.KeysOnce) :
    (bodyFields body.sortKeys).toOption = (bodyFields body).toOption.map Properties.sortKeys := by
  cases body with
  | obj members =>
      rw [Json.sortKeys, bodyFields, bodyFields, Json.lookup_sortMembers]
      cases found : members.lookup "properties" with
      | none => rfl
      | some value =>
          have valueOnce := Json.MembersOnce.value once found
          cases value with
          | obj fields => exact Schema.properties_sortMembers [] fields valueOnce
          | null | bool | int | float | str | arr => rfl
  | null | bool | int | float | str | arr => rfl

theorem wrapperOf_of_length {fields : List (String × Json)} (several : fields.length ≠ 1) :
    wrapperOf fields = .bare fields := by
  match fields with
  | [] => rfl
  | [_] => exact absurd rfl several
  | _ :: _ :: _ => rfl

theorem all_isObject_sortMembers {fields : List (String × Json)} (once : Json.MembersOnce fields) :
    (Json.sortMembers fields).all (·.2.isObject) = fields.all (·.2.isObject) := by
  rw [(Json.sortMembers_perm once).all_eq, List.all_map]
  exact congrArg (fields.all ·) (funext fun entry => isObject_sortKeys entry.2)

theorem indexed_sortKeys (key : String) (value : Json) :
    (match indexBody? value.sortKeys with
      | some body => Wrapper.underIndex key body
      | none => .bare [(key, value.sortKeys)]) =
    (match indexBody? value with
      | some body => Wrapper.underIndex key body
      | none => .bare [(key, value)]).sortKeys := by
  rw [indexBody?_sortKeys]
  cases indexBody? value <;> rfl

/-- What a wrapper holds does not repeat a key at any depth. -/
def Wrapper.KeysOnce : Wrapper → Prop
  | .bare fields | .underProperties fields => Json.MembersOnce fields
  | .underMappings body | .underIndex _ body => body.KeysOnce

theorem indexBody?_once {value body : Json} (once : value.KeysOnce)
    (found : indexBody? value = some body) : body.KeysOnce := by
  cases value with
  | obj members =>
      simp only [indexBody?] at found
      split at found
      next => cases found
      next => exact Json.MembersOnce.value once (Option.filter_eq_some_iff.mp found).1
  | _ => cases found

theorem wrapperOf_once {members : List (String × Json)} (once : Json.MembersOnce members) :
    (wrapperOf members).KeysOnce := by
  unfold wrapperOf
  split
  next key value =>
    have valueOnce : value.KeysOnce := once.2.1
    split
    next => exact valueOnce
    next =>
      split
      next fields =>
        split
        next => exact valueOnce
        next =>
          split
          next found => exact indexBody?_once valueOnce found
          next => exact once
      next =>
        split
        next found => exact indexBody?_once valueOnce found
        next => exact once
  next => exact once

theorem wrapperOf_named {key : String} (other : key ≠ "properties") (value : Json) :
    wrapperOf [(key, value)] =
      if key = "mappings" ∧ holdsProperties value then .underMappings value
      else
        match indexBody? value with
        | some body => .underIndex key body
        | none => .bare [(key, value)] := by
  simp only [wrapperOf]
  split
  next => rfl
  next =>
    split
    next => exact absurd rfl other
    next => rfl

theorem wrapperOf_sortMembers {members : List (String × Json)} (once : Json.MembersOnce members) :
    wrapperOf (Json.sortMembers members) = (wrapperOf members).sortKeys := by
  by_cases single : members.length = 1
  · obtain ⟨⟨key, value⟩, rfl⟩ := List.length_eq_one_iff.mp single
    have indexed := indexed_sortKeys key value
    simp only [Json.sortMembers, Keyed.insert]
    by_cases declares : key = "properties"
    · subst declares
      simp only [wrapperOf, holdsProperties_sortKeys]
      split
      next => rfl
      next =>
        cases value with
        | obj fields =>
            have objects := all_isObject_sortMembers once.2.1
            simp only [Json.sortKeys, Json.lookup_sortMembers, Option.isNone_map, objects]
            split
            next => rfl
            next => exact indexed
        | _ => exact indexed
    · rw [wrapperOf_named declares, wrapperOf_named declares, holdsProperties_sortKeys]
      split
      next => rfl
      next => exact indexed
  · have sorted : (Json.sortMembers members).length ≠ 1 := by
      rwa [(Json.sortMembers_perm once).length_eq, List.length_map]
    rw [wrapperOf_of_length single, wrapperOf_of_length sorted]
    rfl

theorem ofJson_sortKeys {document : Json} (once : document.KeysOnce) :
    (ofJson document.sortKeys).toOption = (ofJson document).toOption.map Mapping.sortKeys := by
  cases document with
  | obj members =>
      have wrapper := wrapperOf_sortMembers once
      have inner := wrapperOf_once once
      simp only [Json.sortKeys, ofJson, wrapper]
      generalize wrapperOf members = wrapped at inner
      cases wrapped with
      | bare fields | underProperties fields =>
          have read := Schema.properties_sortMembers [] fields inner
          simp only [Wrapper.sortKeys, Outcome.toOption_bind, read]
          cases (Schema.properties [] fields).toOption <;> rfl
      | underMappings body | underIndex name body =>
          have read := bodyFields_sortKeys inner
          simp only [Wrapper.sortKeys, Outcome.toOption_bind, read]
          cases (bodyFields body).toOption <;> rfl
  | null | bool | int | float | str | arr => rfl

/-- Documents that are the same but for the order of keys are both read or both refused, and where
    they are read they give the same mapping. -/
theorem ofJson_same {left right : Json} (leftOnce : left.KeysOnce) (rightOnce : right.KeysOnce)
    (same : left.Same right) :
    (ofJson left).toOption.map Mapping.sortKeys = (ofJson right).toOption.map Mapping.sortKeys := by
  rw [← ofJson_sortKeys leftOnce, ← ofJson_sortKeys rightOnce, same]

end Mapping

end StoreSchema
