import StoreSchema.Proofs.Schema.KeyOrder

/-! # The descriptors of a property map

What a descriptor may say, without regard to the order in which it is read, and the descriptors that
are reached from a property map, in the order of the document. A property map is read if and only if
all of them follow the rules. Then each becomes one field, and otherwise the first that does not
follow them is named.
-/

namespace StoreSchema

theorem Kind.ofName?_eq_some {name : String} {kind : Kind} :
    Kind.ofName? name = some kind ↔ kind.name = name := by
  constructor
  · intro found
    simpa using List.find?_some found
  · rintro rfl
    cases kind <;> rfl

namespace Schema

/-! ## What a descriptor may say -/

/-- The kind that a descriptor declares. -/
inductive DeclaresKind (descriptor : List (String × Json)) : Kind → Prop where
  | absent (missing : descriptor.lookup "type" = none) : DeclaresKind descriptor .object
  | null (found : descriptor.lookup "type" = some .null) : DeclaresKind descriptor .object
  | empty (found : descriptor.lookup "type" = some (.str "")) : DeclaresKind descriptor .object
  | named {kind : Kind} (found : descriptor.lookup "type" = some (.str kind.name)) :
      DeclaresKind descriptor kind

/-- The values that ask for a treatment of undeclared keys. -/
inductive Asks : Json → Dynamic → Prop where
  | yes : Asks (.bool true) .accepted
  | yesText : Asks (.str "true") .accepted
  | no : Asks (.bool false) .ignored
  | noText : Asks (.str "false") .ignored
  | runtime : Asks (.str "runtime") .runtime
  | strict : Asks (.str "strict") .strict

/-- The treatment of undeclared keys that a descriptor declares, if it declares one. -/
inductive DeclaresDynamic (descriptor : List (String × Json)) : Option Dynamic → Prop where
  | absent (missing : descriptor.lookup "dynamic" = none) : DeclaresDynamic descriptor none
  | null (found : descriptor.lookup "dynamic" = some .null) : DeclaresDynamic descriptor none
  | asked {value : Json} {dynamic : Dynamic} (found : descriptor.lookup "dynamic" = some value)
      (asks : Asks value dynamic) : DeclaresDynamic descriptor (some dynamic)

/-- The property map that a descriptor holds. -/
inductive DeclaresFields (descriptor : List (String × Json)) : List (String × Json) → Prop where
  | absent (missing : descriptor.lookup "properties" = none) : DeclaresFields descriptor []
  | null (found : descriptor.lookup "properties" = some .null) : DeclaresFields descriptor []
  | held {fields : List (String × Json)}
      (found : descriptor.lookup "properties" = some (.obj fields)) :
      DeclaresFields descriptor fields

/-- A value is a descriptor that follows the rules, whatever the descriptors below it say. -/
inductive Sound : Json → Prop where
  | leaf {descriptor : List (String × Json)} {kind : Kind} (declares : DeclaresKind descriptor kind)
      (plain : kind.isCompound = false) (alone : descriptor.lookup "properties" = none) :
      Sound (.obj descriptor)
  | compound {descriptor fields : List (String × Json)} {kind : Kind} {dynamic : Option Dynamic}
      (declares : DeclaresKind descriptor kind) (compound : kind.isCompound)
      (treats : DeclaresDynamic descriptor dynamic) (holds : DeclaresFields descriptor fields) :
      Sound (.obj descriptor)

/-! ## The descriptors that are reached -/

/-- Whether a descriptor declares a kind with fields of its own. -/
def declaresCompound (descriptor : List (String × Json)) : Bool :=
  match descriptor.lookup "type" with
  | none | some .null | some (.str "") | some (.str "object") | some (.str "nested") => true
  | some _ => false

/-- The property map below a value, if it is a compound descriptor that holds one. -/
def fieldsBelow : Json → List (String × Json)
  | .obj descriptor =>
    match declaresCompound descriptor, descriptor.lookup "properties" with
    | true, some (.obj fields) => fields
    | _, _ => []
  | _ => []

theorem sizeOf_fieldsBelow (value : Json) : sizeOf (fieldsBelow value) ≤ sizeOf value := by
  unfold fieldsBelow
  split
  next descriptor =>
    split
    next fields _ found =>
      have smaller := Keyed.sizeOf_lt_of_lookup found
      simp only [Json.obj.sizeOf_spec] at smaller ⊢
      omega
    next => simp
  next => cases value <;> simp

/-- A value where a descriptor should stand, with the names that lead to it. -/
structure Descriptor where
  path : FieldPath
  value : Json

/-- The descriptors that are reached from a property map through the fields of compound ones, in the
    order of the document, each before those below it. -/
def descriptors (parent : FieldPath) : List (String × Json) → List Descriptor
  | [] => []
  | (name, value) :: rest =>
    ⟨parent ++ [name], value⟩ ::
      (descriptors (parent ++ [name]) (fieldsBelow value) ++ descriptors parent rest)
termination_by fields => sizeOf fields
decreasing_by
  · have := sizeOf_fieldsBelow value
    simp only [List.cons.sizeOf_spec, Prod.mk.sizeOf_spec]
    omega
  · simp only [List.cons.sizeOf_spec]
    omega

end Schema

/-! ## The fields of a tree -/

mutual

/-- A field and those below it, each with the names that lead to it. -/
def Node.nodes (names : FieldPath) : Node → List (FieldPath × Node)
  | .leaf kind params path => [(names, .leaf kind params path)]
  | .compound kind params path dynamic properties =>
    (names, .compound kind params path dynamic properties) :: Properties.nodes names properties

/-- Declared fields and those below them, each with the names that lead to it. -/
def Properties.nodes (parent : FieldPath) : Properties → List (FieldPath × Node)
  | [] => []
  | (name, field) :: rest => field.nodes (parent ++ [name]) ++ Properties.nodes parent rest

end

theorem Properties.nodes_eq (parent : FieldPath) (properties : Properties) :
    properties.nodes parent =
      properties.flatMap fun entry => entry.2.nodes (parent ++ [entry.1]) := by
  induction properties with
  | nil => rfl
  | cons entry rest ih => rw [Properties.nodes, ih, List.flatMap_cons]

theorem Properties.nodes_insert (parent : FieldPath) {name : String} (field : Node)
    {properties : Properties} (absent : name ∉ properties.map Prod.fst) :
    (Properties.nodes parent (Keyed.insert name field properties)).Perm
      (field.nodes (parent ++ [name]) ++ properties.nodes parent) := by
  rw [nodes_eq, nodes_eq]
  exact (Keyed.insert_perm field absent).flatMap_right _

namespace Schema

/-- A field holds all that a descriptor says of it. -/
inductive Describes (path : FieldPath) : Json → Node → Prop where
  | leaf {descriptor : List (String × Json)} {kind : Kind} (declares : DeclaresKind descriptor kind)
      (plain : kind ≠ .object ∧ kind ≠ .nested) :
      Describes path (.obj descriptor)
        (.leaf kind (descriptor.filter (·.1 ∉ ["type", "properties", "dynamic"])) path)
  | compound {descriptor : List (String × Json)} {kind : Kind} {dynamic : Option Dynamic}
      {fields : Properties} (declares : DeclaresKind descriptor kind)
      (compound : kind = .object ∨ kind = .nested) (treats : DeclaresDynamic descriptor dynamic) :
      Describes path (.obj descriptor)
        (.compound kind (descriptor.filter (·.1 ∉ ["type", "properties", "dynamic"])) path dynamic
          fields)

/-- Each field of a list is what one of the descriptors describes, under the names that lead to that
    descriptor, and each descriptor describes one of them. -/
def Matches (descriptors : List Descriptor) (nodes : List (FieldPath × Node)) : Prop :=
  ∃ arranged : List (FieldPath × Node), arranged.Perm nodes ∧
    List.Forall₂ (fun descriptor entry =>
      entry.1 = descriptor.path ∧ Describes descriptor.path descriptor.value entry.2)
      descriptors arranged

theorem Matches.nil : Matches [] [] := ⟨[], .nil, .nil⟩

theorem Matches.cons {descriptors : List Descriptor} {nodes : List (FieldPath × Node)}
    (others : Matches descriptors nodes) {path : FieldPath} {value : Json} {field : Node}
    (describes : Describes path value field) :
    Matches (⟨path, value⟩ :: descriptors) ((path, field) :: nodes) := by
  obtain ⟨arranged, perm, related⟩ := others
  exact ⟨(path, field) :: arranged, perm.cons (path, field), .cons ⟨rfl, describes⟩ related⟩

theorem Matches.append {first later : List Descriptor} {front back : List (FieldPath × Node)}
    (one : Matches first front) (other : Matches later back) :
    Matches (first ++ later) (front ++ back) := by
  obtain ⟨arranged, perm, related⟩ := one
  obtain ⟨more, otherPerm, otherRelated⟩ := other
  exact ⟨arranged ++ more, perm.append otherPerm, List.rel_append related otherRelated⟩

theorem Matches.perm {descriptors : List Descriptor} {nodes others : List (FieldPath × Node)}
    (related : Matches descriptors nodes) (perm : nodes.Perm others) :
    Matches descriptors others := by
  obtain ⟨arranged, before, each⟩ := related
  exact ⟨arranged, before.trans perm, each⟩

/-! ## Reading one descriptor -/

def Error.path : Error → FieldPath
  | .unknownKind _ path | .malformed path _ | .unknownMetric _ path => path

section

variable {path : FieldPath} {descriptor : List (String × Json)}

theorem kindOf_eq_ok {kind : Kind} :
    kindOf path descriptor = .ok kind ↔ DeclaresKind descriptor kind := by
  constructor
  · intro read
    unfold kindOf at read
    split at read
    next missing => exact Except.ok.inj read ▸ .absent missing
    next found => exact Except.ok.inj read ▸ .null found
    next found => exact Except.ok.inj read ▸ .empty found
    next name _ found =>
      split at read
      next named =>
        cases read
        exact .named (Kind.ofName?_eq_some.mp named ▸ found)
      next => cases read
    next => cases read
  · intro declares
    unfold kindOf
    cases declares with
    | absent found | null found => rw [found]
    | empty found => rw [found]; rfl
    | named found =>
        rw [found]
        cases kind <;> rfl

theorem kindOf_error {error : Error} (fails : kindOf path descriptor = .error error) :
    error.path = path := by
  unfold kindOf at fails
  split at fails
  next => cases fails
  next => cases fails
  next => cases fails
  next =>
    split at fails
    next => cases fails
    next => cases fails; rfl
  next => cases fails; rfl

theorem asks_iff {value : Json} {dynamic : Dynamic} :
    Asks value dynamic ↔ Dynamic.ofJson? value = some dynamic := by
  constructor
  · intro asks
    cases asks <;> rfl
  · intro read
    unfold Dynamic.ofJson? at read
    split at read
    all_goals cases read
    all_goals constructor

theorem dynamicOf_eq_ok {dynamic : Option Dynamic} :
    dynamicOf path descriptor = .ok dynamic ↔ DeclaresDynamic descriptor dynamic := by
  constructor
  · intro read
    unfold dynamicOf at read
    split at read
    next missing => exact Except.ok.inj read ▸ .absent missing
    next found => exact Except.ok.inj read ▸ .null found
    next found =>
      split at read
      next asked =>
        cases read
        exact .asked found (asks_iff.mpr asked)
      next => cases read
  · intro declares
    unfold dynamicOf
    cases declares with
    | absent found | null found => rw [found]
    | asked found asks =>
        rw [found]
        cases asks <;> rfl

theorem dynamicOf_error {error : Error} (fails : dynamicOf path descriptor = .error error) :
    error.path = path := by
  unfold dynamicOf at fails
  split at fails
  next => cases fails
  next => cases fails
  next =>
    split at fails
    next => cases fails
    next => cases fails; rfl

theorem declaresCompound_eq {kind : Kind} (declares : DeclaresKind descriptor kind) :
    declaresCompound descriptor = kind.isCompound := by
  unfold declaresCompound
  cases declares with
  | absent found | null found => rw [found]; rfl
  | empty found => rw [found]; rfl
  | named found =>
      rw [found]
      cases kind <;> rfl

theorem fieldsBelow_of_leaf {kind : Kind} (declares : DeclaresKind descriptor kind)
    (plain : kind.isCompound = false) : fieldsBelow (.obj descriptor) = [] := by
  rw [fieldsBelow, declaresCompound_eq declares, plain]

theorem fieldsBelow_of_compound {kind : Kind} {fields : List (String × Json)}
    (declares : DeclaresKind descriptor kind) (compound : kind.isCompound)
    (holds : DeclaresFields descriptor fields) : fieldsBelow (.obj descriptor) = fields := by
  rw [fieldsBelow, declaresCompound_eq declares, compound]
  cases holds with
  | absent found | null found | held found => rw [found]

/-- What comes of reading one descriptor, given what comes of reading those below it. -/
inductive ReadsAs (path : FieldPath) : Json → Except Error Node → Prop where
  | fault {value : Json} {error : Error} (unsound : ¬ Sound value) (located : error.path = path) :
      ReadsAs path value (.error error)
  | leaf {descriptor : List (String × Json)} {kind : Kind} (declares : DeclaresKind descriptor kind)
      (plain : kind.isCompound = false) (alone : descriptor.lookup "properties" = none) :
      ReadsAs path (.obj descriptor) (.ok (.leaf kind (paramsOf descriptor) path))
  | compound {descriptor fields : List (String × Json)} {kind : Kind} {dynamic : Option Dynamic}
      (declares : DeclaresKind descriptor kind) (compound : kind.isCompound)
      (treats : DeclaresDynamic descriptor dynamic) (holds : DeclaresFields descriptor fields) :
      ReadsAs path (.obj descriptor) do
        let below ← properties path fields
        pure (.compound kind (paramsOf descriptor) path dynamic below)

theorem DeclaresKind.unique {one other : Kind} (first : DeclaresKind descriptor one)
    (second : DeclaresKind descriptor other) : one = other := by
  have read : kindOf [] descriptor = .ok one := kindOf_eq_ok.mpr first
  have again : kindOf [] descriptor = .ok other := kindOf_eq_ok.mpr second
  exact Except.ok.inj (read.symm.trans again)

theorem Sound.kind (sound : Sound (.obj descriptor)) : ∃ kind, DeclaresKind descriptor kind := by
  cases sound with
  | leaf declares | compound declares => exact ⟨_, declares⟩

theorem sound_leaf {kind : Kind} (declares : DeclaresKind descriptor kind)
    (plain : kind.isCompound = false) :
    Sound (.obj descriptor) ↔ descriptor.lookup "properties" = none := by
  constructor
  · intro sound
    cases sound with
    | leaf _ _ alone => exact alone
    | compound other compound =>
        rw [← declares.unique other, plain] at compound
        cases compound
  · exact fun alone => .leaf declares plain alone

theorem sound_compound {kind : Kind} (declares : DeclaresKind descriptor kind)
    (compound : kind.isCompound) :
    Sound (.obj descriptor) ↔
      (∃ dynamic, DeclaresDynamic descriptor dynamic) ∧
        ∃ fields, DeclaresFields descriptor fields := by
  constructor
  · intro sound
    cases sound with
    | leaf other plain =>
        rw [← declares.unique other, compound] at plain
        cases plain
    | compound _ _ treats holds => exact ⟨⟨_, treats⟩, _, holds⟩
  · rintro ⟨⟨dynamic, treats⟩, fields, holds⟩
    exact .compound declares compound treats holds

theorem declared_cases (path : FieldPath) (descriptor : List (String × Json)) :
    (∃ fields, DeclaresFields descriptor fields ∧
        declared path descriptor = properties path fields) ∨
      (¬ ∃ fields, DeclaresFields descriptor fields) ∧
        declared path descriptor = .error (.malformed path .propertiesNotObject) := by
  rw [declared_eq]
  split
  next missing => exact .inl ⟨[], .absent missing, by rw [properties]⟩
  next found => exact .inl ⟨[], .null found, by rw [properties]⟩
  next fields found => exact .inl ⟨fields, .held found, rfl⟩
  next value notNull notObject found =>
    refine .inr ⟨?_, rfl⟩
    rintro ⟨fields, holds⟩
    cases holds with
    | absent other => simp [found] at other
    | null other => exact notNull (Option.some.inj (found.symm.trans other))
    | held other => exact notObject _ (Option.some.inj (found.symm.trans other))

theorem compound_readsAs (path : FieldPath) {kind : Kind}
    (declares : DeclaresKind descriptor kind) (compound : kind.isCompound) :
    ReadsAs path (.obj descriptor) (do
      let dynamic ← dynamicOf path descriptor
      let fields ← declared path descriptor
      pure (.compound kind (paramsOf descriptor) path dynamic fields)) := by
  have rules := sound_compound declares compound
  cases read : dynamicOf path descriptor with
  | error error =>
      refine .fault (fun sound => ?_) (dynamicOf_error read)
      obtain ⟨⟨dynamic, treats⟩, -⟩ := rules.mp sound
      rw [dynamicOf_eq_ok.mpr treats] at read
      cases read
  | ok dynamic =>
      have treats := dynamicOf_eq_ok.mp read
      rw [Outcome.ok_bind]
      rcases declared_cases path descriptor with ⟨fields, holds, read⟩ | ⟨unheld, read⟩
      · rw [read]
        exact .compound declares compound treats holds
      · rw [read]
        exact .fault (fun sound => unheld (rules.mp sound).2) rfl

theorem leaf_readsAs (path : FieldPath) {kind : Kind} (declares : DeclaresKind descriptor kind)
    (plain : kind.isCompound = false) :
    ReadsAs path (.obj descriptor)
      (if (descriptor.lookup "properties").isSome then
        .error (.malformed path (.propertiesOfLeaf kind))
      else pure (.leaf kind (paramsOf descriptor) path)) := by
  have rules := sound_leaf declares plain
  split
  next present =>
    refine .fault (fun sound => ?_) rfl
    rw [rules.mp sound] at present
    cases present
  next missing => exact .leaf declares plain (Option.not_isSome_iff_eq_none.mp missing)

theorem node_readsAs (path : FieldPath) (value : Json) : ReadsAs path value (node path value) := by
  match value with
  | .null | .bool _ | .int _ | .float _ | .str _ | .arr _ =>
      unfold node
      exact .fault nofun rfl
  | .obj descriptor =>
      rw [node]
      cases read : kindOf path descriptor with
      | error error =>
          refine .fault (fun sound => ?_) (kindOf_error read)
          obtain ⟨kind, declares⟩ := sound.kind
          rw [kindOf_eq_ok.mpr declares] at read
          cases read
      | ok kind =>
          have declares := kindOf_eq_ok.mp read
          rw [Outcome.ok_bind]
          split
          next compound => exact compound_readsAs path declares compound
          next plain => exact leaf_readsAs path declares (eq_false_of_ne_true plain)

end

/-! ## Reading a property map -/

theorem paramsOf_eq (descriptor : List (String × Json)) :
    paramsOf descriptor = descriptor.filter (·.1 ∉ ["type", "properties", "dynamic"]) := by
  refine List.filter_congr fun entry _ => ?_
  simp [bne, Bool.and_assoc, Bool.beq_eq_decide_eq]

theorem isCompound_iff {kind : Kind} : kind.isCompound ↔ kind = .object ∨ kind = .nested := by
  cases kind <;> simp [Kind.isCompound]

theorem fieldsBelow_once {value : Json} (once : value.KeysOnce) :
    Json.MembersOnce (fieldsBelow value) := by
  unfold fieldsBelow
  split
  next =>
    split
    next found => exact Json.MembersOnce.value once found
    next => trivial
  next => trivial

theorem mem_keys_properties {parent : FieldPath} {fields : List (String × Json)} {tree : Properties}
    (read : properties parent fields = .ok tree) {name : String} :
    name ∈ tree.map Prod.fst ↔ name ∈ fields.map Prod.fst := by
  induction fields generalizing tree with
  | nil =>
      cases read
      rfl
  | cons entry rest ih =>
      rw [properties] at read
      obtain ⟨first, -, read⟩ := Outcome.bind_eq_ok.mp read
      obtain ⟨others, othersRead, read⟩ := Outcome.bind_eq_ok.mp read
      cases Outcome.pure_eq_ok.mp read
      rw [Keyed.mem_keys_insert, ih othersRead, List.map_cons, List.mem_cons]

/-- What comes of reading descriptors one after the other: all follow the rules and the result is as
    it should be, or the first that does not is named. -/
inductive Reads {α : Type} (fits : α → Prop) : List Descriptor → Except Error α → Prop where
  | read {descriptors : List Descriptor} {result : α}
      (sound : ∀ descriptor ∈ descriptors, Sound descriptor.value) (fit : fits result) :
      Reads fits descriptors (.ok result)
  | refused {error : Error} {before after : List Descriptor} {first : Descriptor}
      (earlier : ∀ descriptor ∈ before, Sound descriptor.value) (unsound : ¬ Sound first.value)
      (located : error.path = first.path) : Reads fits (before ++ first :: after) (.error error)

section

variable {α β : Type} {fits : α → Prop} {fitsNext : β → Prop}

theorem Reads.cons {descriptors : List Descriptor} {result : Except Error α}
    (reads : Reads fits descriptors result) {descriptor : Descriptor}
    (sound : Sound descriptor.value) : Reads fits (descriptor :: descriptors) result := by
  cases reads with
  | read others fit => exact .read (List.forall_mem_cons.mpr ⟨sound, others⟩) fit
  | refused earlier unsound located =>
      rw [← List.cons_append]
      exact .refused (List.forall_mem_cons.mpr ⟨sound, earlier⟩) unsound located

theorem Reads.bind {first later : List Descriptor} {result : Except Error α}
    {next : α → Except Error β} (reads : Reads fits first result)
    (continues : ∀ value, result = .ok value → fits value → Reads fitsNext later (next value)) :
    Reads fitsNext (first ++ later) (result >>= next) := by
  cases reads with
  | refused earlier unsound located =>
      rw [List.append_assoc, List.cons_append]
      exact .refused earlier unsound located
  | @read _ value sound fit =>
      have following := continues value rfl fit
      rw [Outcome.ok_bind]
      generalize next value = outcome at following
      cases following with
      | read others fitNext => exact .read (List.forall_mem_append.mpr ⟨sound, others⟩) fitNext
      | refused earlier unsound located =>
          rw [← List.append_assoc]
          exact .refused (List.forall_mem_append.mpr ⟨sound, earlier⟩) unsound located

theorem Reads.map {all : List Descriptor} {result : Except Error α} (reads : Reads fits all result)
    {f : α → β} (continues : ∀ value, result = .ok value → fits value → fitsNext (f value)) :
    Reads fitsNext all (result >>= fun value => pure (f value)) := by
  rw [← List.append_nil all]
  exact reads.bind fun value read fit =>
    .read (List.forall_mem_nil _) (continues value read fit)

end

/-- A descriptor comes before those below it: its own faults are met first. -/
theorem node_reads (path : FieldPath) (value : Json)
    (below : Reads (fun tree => Json.MembersOnce (fieldsBelow value) →
        Matches (descriptors path (fieldsBelow value)) (tree.nodes path))
      (descriptors path (fieldsBelow value)) (properties path (fieldsBelow value))) :
    Reads (fun field => value.KeysOnce →
        Matches (⟨path, value⟩ :: descriptors path (fieldsBelow value)) (field.nodes path))
      (⟨path, value⟩ :: descriptors path (fieldsBelow value)) (node path value) := by
  have step := node_readsAs path value
  generalize node path value = outcome at step
  cases step with
  | fault unsound located => exact .refused (List.forall_mem_nil _) unsound located
  | @leaf descriptor kind declares plain alone =>
      have nothing := fieldsBelow_of_leaf declares plain
      rw [nothing, descriptors]
      refine .read (by simpa using Sound.leaf declares plain alone) fun _ => ?_
      have other := mt isCompound_iff.mpr (Bool.not_eq_true _ ▸ plain)
      rw [Node.nodes, paramsOf_eq]
      exact Matches.nil.cons (.leaf declares (not_or.mp other))
  | @compound descriptor fields kind dynamic declares compound treats holds =>
      have same := fieldsBelow_of_compound declares compound holds
      rw [same] at below ⊢
      refine Reads.cons ?_ (Sound.compound declares compound treats holds)
      refine below.map fun tree _ treeMatches once => ?_
      rw [Node.nodes, paramsOf_eq]
      exact (treeMatches (same ▸ fieldsBelow_once once)).cons
        (.compound declares (isCompound_iff.mp compound) treats)

theorem properties_reads (parent : FieldPath) (fields : List (String × Json)) :
    Reads (fun tree => Json.MembersOnce fields →
        Matches (descriptors parent fields) (tree.nodes parent))
      (descriptors parent fields) (properties parent fields) := by
  fun_induction descriptors parent fields with
  | case1 parent =>
      rw [properties]
      exact .read (List.forall_mem_nil _) fun _ => Matches.nil
  | case2 parent name value rest below later =>
      rw [properties, ← List.cons_append]
      -- First the descriptor with those below it, then those of the siblings behind it.
      refine (node_reads (parent ++ [name]) value below).bind fun field _ fieldMatches => ?_
      refine later.map fun others othersRead othersMatch once => ?_
      obtain ⟨absent, valueOnce, restOnce⟩ := once
      have new := mt (mem_keys_properties othersRead).mp absent
      exact ((fieldMatches valueOnce).append (othersMatch restOnce)).perm
        (Properties.nodes_insert parent field new).symm

/-- A property map is read if and only if every descriptor that is reached from it follows the rules.
    Then its tree has one field for each of them, under the names that lead to the descriptor and
    with all that it says. Otherwise the error names the first that breaks a rule, in the order of
    the document. -/
theorem properties_exact (parent : FieldPath) (fields : List (String × Json)) :
    ((∃ tree, properties parent fields = .ok tree) ↔
        ∀ descriptor ∈ descriptors parent fields, Sound descriptor.value) ∧
      (∀ tree, Json.MembersOnce fields → properties parent fields = .ok tree →
        tree.Ordered ∧ Matches (descriptors parent fields) (tree.nodes parent)) ∧
      ∀ error, properties parent fields = .error error →
        ∃ before first after, descriptors parent fields = before ++ first :: after ∧
          (∀ descriptor ∈ before, Sound descriptor.value) ∧ ¬ Sound first.value ∧
          error.path = first.path := by
  have reads := properties_reads parent fields
  generalize outcome : properties parent fields = result at reads
  generalize listed : descriptors parent fields = all at reads
  cases reads with
  | @read _ tree sound fit =>
      refine ⟨iff_of_true ⟨tree, rfl⟩ sound, ?_, nofun⟩
      rintro _ once ⟨⟩
      have known := properties_given Mapping.ordered_given parent fields tree outcome
      exact ⟨Properties.ordered_iff.mpr ⟨known.ascending, known.each⟩, listed ▸ fit once⟩
  | @refused error before after first earlier unsound located =>
      refine ⟨iff_of_false nofun fun sound => ?_, nofun, ?_⟩
      · exact unsound (sound first (List.mem_append_right before List.mem_cons_self))
      · rintro _ ⟨⟩
        exact ⟨before, first, after, rfl, earlier, unsound, located⟩

namespace Sample

/-- A strict record with a stored keyword in it. -/
def authored : List (String × Json) :=
  [("author", .obj
    [("dynamic", .str "strict"),
     ("properties", .obj [("name", .obj [("type", .str "keyword"), ("store", .bool true)])])])]

end Sample

theorem sample_properties_exact :
    ∃ tree, properties ["book"] Sample.authored = .ok tree ∧ tree.Ordered ∧
      Matches (descriptors ["book"] Sample.authored) (tree.nodes ["book"]) := by
  have read : properties ["book"] Sample.authored =
      .ok [("author", .compound .object [] ["book", "author"] (some .strict)
        [("name", .leaf .keyword [("store", .bool true)] ["book", "author", "name"])])] := by
    with_unfolding_all rfl
  have once : Json.MembersOnce Sample.authored := by
    simp [Sample.authored, Json.MembersOnce, Json.KeysOnce]
  exact ⟨_, read, (properties_exact ["book"] Sample.authored).2.1 _ once read⟩

example :
    properties [] [("author", .obj [("properties", .obj [("name", .obj [("type", .str "nme")])])])] =
      .error (.unknownKind "nme" ["author", "name"]) := by
  with_unfolding_all rfl

end Schema

end StoreSchema
