import StoreSchema.Schema.Mapping

/-! # Wrapped property maps

A property map is read in the same way by itself, under `properties`, under `mappings` and in the
report of an index, whatever its fields and the index are called. The names of the wrappers get in
the way in two places. The report of an index called `properties` is a property map under
`properties` as well, and is read as one. And a field called `type` makes a property map look like
a field descriptor, so that it is not told from one under `properties` alone.
-/

namespace StoreSchema.Mapping

/-! ## The wrappers -/

/-- A property map under its own key, as the body of a mapping holds it. -/
def body (fields : List (String × Json)) : Json :=
  .obj [("properties", .obj fields)]

/-- A property map in a mapping. -/
def mapped (fields : List (String × Json)) : Json :=
  .obj [("mappings", body fields)]

/-- A property map as the store reports it for an index. -/
def reported (index : String) (fields : List (String × Json)) : Json :=
  .obj [(index, mapped fields)]

/-- A property map read without a wrapper, with the name of the index that it is for. -/
def ofFields (index : Option String) (fields : List (String × Json)) :
    Except Schema.Error Mapping :=
  (Schema.properties [] fields).map fun properties => ⟨index, properties⟩

/-! ## What tells them apart -/

theorem holdsProperties_body (fields : List (String × Json)) :
    holdsProperties (body fields) = true := rfl

theorem holdsProperties_mapped (fields : List (String × Json)) :
    holdsProperties (mapped fields) = false := rfl

theorem indexBody?_mapped (fields : List (String × Json)) :
    indexBody? (mapped fields) = some (body fields) := rfl

theorem wrapperOf_body {fields : List (String × Json)}
    (objects : ∀ field ∈ fields, field.2.isObject) (untyped : fields.lookup "type" = none) :
    wrapperOf [("properties", .obj fields)] = .underProperties fields := by
  have all : fields.all (·.2.isObject) = true := List.all_eq_true.mpr objects
  simp [wrapperOf, untyped, all]

theorem wrapperOf_mapped (fields : List (String × Json)) :
    wrapperOf [("mappings", body fields)] = .underMappings (body fields) := by
  simp [wrapperOf, holdsProperties_body]

/-- The first test looks for a body right under the key, so that an index may be called
    `mappings`; the second takes every map of objects under `properties`. -/
theorem wrapperOf_reported {index : String} (other : index ≠ "properties")
    (fields : List (String × Json)) :
    wrapperOf [(index, mapped fields)] = .underIndex index (body fields) := by
  have unbodied : ¬ (index = "mappings" ∧ holdsProperties (mapped fields) = true) := by
    rw [holdsProperties_mapped]
    simp
  unfold wrapperOf
  simp only [if_neg unbodied]
  split
  next => exact absurd rfl other
  next => simp only [indexBody?_mapped]

/-! ## Reading them -/

theorem bind_pure_eq_ofFields (index : Option String) (fields : List (String × Json)) :
    (do
      let properties ← Schema.properties [] fields
      pure ⟨index, properties⟩ : Except Schema.Error Mapping) = ofFields index fields := by
  unfold ofFields
  cases Schema.properties [] fields <;> rfl

theorem ofJson_body {fields : List (String × Json)}
    (objects : ∀ field ∈ fields, field.2.isObject) (untyped : fields.lookup "type" = none) :
    ofJson (body fields) = ofFields none fields := by
  rw [body, ofJson, wrapperOf_body objects untyped]
  exact bind_pure_eq_ofFields none fields

theorem ofJson_mapped (fields : List (String × Json)) :
    ofJson (mapped fields) = ofFields none fields := by
  rw [mapped, ofJson, wrapperOf_mapped]
  exact bind_pure_eq_ofFields none fields

theorem ofJson_reported {index : String} (other : index ≠ "properties")
    (fields : List (String × Json)) :
    ofJson (reported index fields) = ofFields (some index) fields := by
  rw [reported, ofJson, wrapperOf_reported other]
  exact bind_pure_eq_ofFields (some index) fields

theorem ofJson_reported_properties (fields : List (String × Json)) :
    ofJson (reported "properties" fields) = ofFields none [("mappings", body fields)] := by
  refine ofJson_body ?_ rfl
  intro field member
  cases List.mem_singleton.mp member
  rfl

/-- All wrappers mean the same mapping: a property map in a mapping and in the report of an index
    comes out as if it were read by itself, with the name of the index in the report, and under
    `properties` alone it does so unless a field is called `type`. The report of an index called
    `properties` is a property map under `properties`. -/
theorem wrappers_mean_the_same {fields : List (String × Json)}
    (objects : ∀ field ∈ fields, field.2.isObject) (index : String) :
    (fields.lookup "type" = none → ofJson (body fields) = ofFields none fields) ∧
      ofJson (mapped fields) = ofFields none fields ∧
      ofJson (reported index fields) =
        if index = "properties" then ofFields none [("mappings", body fields)]
        else ofFields (some index) fields := by
  refine ⟨ofJson_body objects, ofJson_mapped fields, ?_⟩
  split
  next same => exact same ▸ ofJson_reported_properties fields
  next other => exact ofJson_reported other fields

/-! ## A sample -/

namespace Sample

/-- Fields with the names of wrappers. -/
def wrapperNames : List (String × Json) :=
  [("mappings", .obj [("type", .str "keyword")]),
   ("properties", .obj [("properties", .obj [("type", .obj [("type", .str "long")])])])]

theorem wrapperNames_objects : ∀ field ∈ wrapperNames, field.2.isObject := by
  simp [wrapperNames, Json.isObject]

theorem wrapperNames_untyped : wrapperNames.lookup "type" = none := rfl

end Sample

theorem sample_wrappers_mean_the_same :
    (∀ field ∈ Sample.wrapperNames, field.2.isObject) ∧
      ofJson (body Sample.wrapperNames) = ofFields none Sample.wrapperNames ∧
      ofJson (mapped Sample.wrapperNames) = ofFields none Sample.wrapperNames ∧
      ofJson (reported "mappings" Sample.wrapperNames) =
        ofFields (some "mappings") Sample.wrapperNames := by
  obtain ⟨bare, inMapping, inReport⟩ :=
    wrappers_mean_the_same Sample.wrapperNames_objects "mappings"
  exact ⟨Sample.wrapperNames_objects, bare Sample.wrapperNames_untyped, inMapping, inReport⟩

/-- An index may not be called `properties`, and a property map under `properties` alone may not
    have a field called `type`: both come out otherwise than the property map by itself. -/
theorem sample_wrapper_names_collide :
    ofJson (reported "properties" [("title", .obj [("type", .str "text")])]) ≠
        ofFields (some "properties") [("title", .obj [("type", .str "text")])] ∧
      ofJson (body [("type", .obj [("type", .str "keyword")])]) ≠
        ofFields none [("type", .obj [("type", .str "keyword")])] := by
  constructor
  · intro same
    have names := congrArg (fun read => read.toOption.map Mapping.indexName) same
    have named : (some none : Option (Option String)) = some (some "properties") := names
    cases named
  · intro same
    have read := congrArg Except.isOk same
    have fails : false = true := read
    cases fails

end StoreSchema.Mapping
