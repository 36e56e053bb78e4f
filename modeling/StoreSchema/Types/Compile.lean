import StoreSchema.Config
import StoreSchema.Naming.Identifier
import StoreSchema.Naming.Registry
import StoreSchema.Schema.Mapping
import StoreSchema.Types.Forest

/-! # Compiling a mapping

The schema tree is walked from the root down, siblings in ascending order. A definition takes its
name before its children ask for theirs, and names taken on the way to a failure stay taken.
-/

namespace StoreSchema

namespace Compile

/-- What can go wrong with one field. -/
inductive Cause where
  | schema (fault : Schema.Error)
  | format (fault : DateFormat.Fault)
  | naming (fault : Naming.Error)
  deriving Repr

/-- What a compilation fails with: a cause, or a fault that carries the path of its field. -/
inductive Fault where
  | bare (cause : Cause)
  | located (path : FieldPath) (fault : Fault)
  deriving Repr

def Cause.message : Cause → String
  | .schema fault => fault.message
  | .format fault => fault.message
  | .naming fault => fault.message

namespace Fault

/-- A fault with the path of its field; one that carries a path keeps it. -/
def locate (path : FieldPath) : Fault → Fault
  | .bare cause => .located path (.bare cause)
  | .located inner fault => .located inner fault

/-- The path that a fault carries. -/
def path? : Fault → Option FieldPath
  | .bare _ => none
  | .located path _ => some path

/-- What is wrong, wherever it is. -/
def cause : Fault → Cause
  | .bare cause => cause
  | .located _ fault => fault.cause

def message : Fault → String
  | .bare cause => cause.message
  | .located path fault => "at `" ++ path.dotted ++ "`: " ++ fault.message

end Fault

/-- The outcome of a step that takes names: the names stay taken if it fails. -/
abbrev Step (α : Type) := Except Fault α × Naming.Registry

/-! ## Leaves -/

/-- A generated leaf type, but for its name. -/
structure LeafType where
  body : Body
  dependencies : List String
  zero : Json

/-- What a leaf becomes: an existing type, or a generated one that needs a name. -/
inductive LeafPlan where
  | existing (type : String) (zero : Json)
  | generated (type : LeafType)

/-- The scope of date formats. -/
def formatScope : String := "es_typegen::date_format"

/-- The format that the parameters of a date field declare. -/
def declaredFormat (path : FieldPath) (params : List (String × Json)) :
    Except Cause (Option String) :=
  match params.lookup "format" with
  | none | some .null => .ok none
  | some (.str format) => .ok (some format)
  | some value => .error (.schema (.malformed path (.formatNotString value)))

/-- The type of a date field. Without a format and without preferences one of two existing types
    serves. -/
def planDate (path : FieldPath) (params : List (String × Json)) (policy : Policy) (nanos : Bool) :
    Except Cause LeafPlan := do
  let declared ← declaredFormat path params
  if declared.isNone && policy.preferredDateFormat.isNone && !policy.preferEpoch then
    pure (.existing
      (if nanos then "estype::StrictDateOptionalTimeNanosEpochMillis"
        else "estype::StrictDateOptionalTimeEpochMillis")
      (.str "1970-01-01T00:00:00Z"))
  else
    let source := declared.getD Date.defaultFormat
    match DateFormat.compile source policy.preferredDateFormat policy.preferEpoch with
    | .error fault => .error (.format fault)
    | .ok format =>
      pure (.generated
        { body := .date ⟨source, policy.preferredDateFormat, nanos, format⟩
          dependencies := Keyed.sorted [Target.leafScope, formatScope]
          zero := match format.toJson Moment.epoch with
            | .ok zero => zero
            | .error _ => .null })

/-- The metric that a value names. -/
def metricOf (path : FieldPath) (value : Json) : Except Cause Metric :=
  match value with
  | .str name =>
    match Metric.ofName? name with
    | some metric => .ok metric
    | none => .error (.schema (.unknownMetric name path))
  | other => .error (.schema (.unknownMetric other.text path))

def planAggregate (path : FieldPath) (params : List (String × Json)) : Except Cause LeafPlan :=
  match params.lookup "metrics" with
  | some (.arr names) => do
    let metrics ← names.mapM (metricOf path)
    pure (.generated ⟨.aggregate (Keyed.sorted metrics), [], .obj []⟩)
  | _ => .error (.schema (.malformed path .metricsNotArray))

/-- What a leaf becomes. -/
def planLeaf (kind : Kind) (path : FieldPath) (params : List (String × Json)) (policy : Policy) :
    Except Cause LeafPlan :=
  match kind.target with
  | .scalar scalar => .ok (.existing scalar.name scalar.zero.toJson)
  | .boolean =>
    .ok (.existing (if policy.preferStringBoolean then "estype::BooleanStr" else "estype::Boolean")
      (.bool false))
  | .date nanos => planDate path params policy nanos
  | .aggregate => planAggregate path params
  | .compound => .error (.schema (.malformed path (.compoundWithoutBody kind)))

def takeName (strategy : Naming.Strategy) (path : List String) (registry : Naming.Registry) :
    Step String :=
  match registry.generate strategy path with
  | .ok (name, registry) => (.ok name, registry)
  | .error fault => (.error (.bare (.naming fault)), registry)

/-- Compiles a leaf into the type of its elements and the definitions that it needs. -/
def leaf (strategy : Naming.Strategy) (kind : Kind) (params : List (String × Json))
    (place : FieldPath) (path : List String) (policy : Policy) (registry : Naming.Registry) :
    Step (Element × List Definition) :=
  match planLeaf kind place params policy with
  | .error cause => (.error (.bare cause), registry)
  | .ok (.existing type zero) => (.ok (.scalar type zero, []), registry)
  | .ok (.generated type) =>
    match takeName strategy path registry with
    | (.error fault, registry) => (.error fault, registry)
    | (.ok name, registry) =>
      (.ok (.leaf name type.zero, [⟨name, name, path, kind, type.body, type.dependencies⟩]),
       registry)

/-! ## Records -/

/-- A compiled field. -/
structure Compiled where
  policy : Policy
  element : Element
  types : List Definition

/-- A compiled field of a record. -/
structure Child where
  name : String
  kind : Kind
  compiled : Compiled

/-- The scopes of fields, records and open maps. -/
def fieldScope : String := "es_typegen::field::Field"

def recordScope : String := "es_typegen::record::RecordSerializer"

def mapScope : String := "std::collections::BTreeMap"

/-- What the element type of a child needs in scope. -/
def childScopes (child : Child) : List String :=
  if child.compiled.element.isNested then []
  else
    (match child.kind.target with
      | .scalar scalar => scalar.dependencies
      | _ => []) ++
    (if "estype::".isPrefixOf child.compiled.element.plain then [Target.leafScope] else [])

/-- The member that a child of a record becomes. Its preferences decide how it is held. -/
def Child.member (child : Child) (ident : String) : Member :=
  { name := child.name
    ident
    kind := child.kind
    policy := child.compiled.policy
    element := child.compiled.element
    form := .ofPolicy child.compiled.policy
    cardinality := .ofPolicy child.compiled.policy }

/-- The members that the children of a record become. -/
def membersOf (children : List Child) : List Member :=
  (children.zip (Naming.uniqueIdents (children.map Child.name))).map fun (child, ident) =>
    child.member ident

def recordDefinition (name wireName : String) (path : List String) (kind : Kind)
    (children : List Child) : Definition :=
  { name, wireName, path, kind
    body := .record (membersOf children)
    dependencies := Keyed.sorted ([fieldScope, recordScope] ++ children.flatMap childScopes) }

def openDefinition (name wireName : String) (path : List String) (kind : Kind) : Definition :=
  { name, wireName, path, kind
    body := .openMap
    dependencies := Keyed.sorted [fieldScope, Target.jsonScope, mapScope] }

mutual

/-- Compiles a field found under a path of names. `inherited` is the nearest treatment of
    undeclared keys above the field. -/
def node (config : Config) (path : List String) (field : Option FieldPolicy)
    (inherited : Option Dynamic) (registry : Naming.Registry) : Node → Step Compiled
  | .leaf kind params place =>
    let policy := config.global.resolve kind field
    match leaf config.naming kind params place path policy registry with
    | (.error fault, registry) => (.error (fault.locate place), registry)
    | (.ok (element, types), registry) => (.ok ⟨policy, element, types⟩, registry)
  | .compound kind _ _ dynamic properties =>
    let policy := config.global.resolve kind field
    let treatment := dynamic.or inherited
    match takeName config.naming path registry with
    | (.error fault, registry) => (.error (fault.locate (path.drop 1)), registry)
    | (.ok name, registry) =>
      let wireName := config.naming.wireName name
      let element := Element.compound name wireName
      if treatment = some .accepted then
        (.ok ⟨policy, element, [openDefinition name wireName path kind]⟩, registry)
      else
        let overrides := (field.map FieldPolicy.children).getD []
        match children config path overrides treatment registry properties with
        | (.error fault, registry) => (.error fault, registry)
        | (.ok children, registry) =>
          (.ok ⟨policy, element, recordDefinition name wireName path kind children ::
            children.flatMap (·.compiled.types)⟩, registry)

/-- Compiles the fields of a record, each with the override under its name. -/
def children (config : Config) (path : List String) (overrides : Overrides)
    (inherited : Option Dynamic) (registry : Naming.Registry) :
    List (String × Node) → Step (List Child)
  | [] => (.ok [], registry)
  | (name, field) :: rest =>
    match node config (path ++ [name]) (overrides.lookup name) inherited registry field with
    | (.error fault, registry) => (.error fault, registry)
    | (.ok compiled, registry) =>
      match children config path overrides inherited registry rest with
      | (.error fault, registry) => (.error fault, registry)
      | (.ok others, registry) => (.ok (⟨name, field.kind, compiled⟩ :: others), registry)

end

end Compile

namespace Forest

/-- Compiles the fields at the top of a mapping under the name of the root. The root is a record:
    undeclared keys at the top are ignored. -/
def ofProperties (config : Config) (root : String) (properties : Properties) :
    Except Compile.Fault Forest :=
  match (Compile.node config [root] (some (.mk {} config.fields)) none []
    (.compound .object [] [] none properties)).1 with
  | .ok compiled => .ok ⟨compiled.element.plain, compiled.types⟩
  | .error fault => .error fault

/-- Compiles a mapping. The root is named as asked, else for the index, else `Root`. -/
def ofMapping (config : Config) (root : Option String) (mapping : Mapping) :
    Except Compile.Fault Forest :=
  ofProperties config ((root.or mapping.indexName).getD "Root") mapping.properties

end Forest

end StoreSchema
