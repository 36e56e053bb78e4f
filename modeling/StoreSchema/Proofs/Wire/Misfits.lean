import StoreSchema.Proofs.Lists
import StoreSchema.Proofs.Types.Kinds
import StoreSchema.Proofs.Wire.Usable
import StoreSchema.Schema.Error

/-! # Documents that do not fit

A document fits a type if objects stand where records belong: at the top, and below each member
that holds records as one object, as a list of objects or as `null`. Whatever fits is read, and the
reading of anything else fails at the first value that is no object. The names on the way to that
value are the path of the fault, without empty names in front.
-/

namespace StoreSchema

namespace WireFault

/-! ## Paths -/

variable {path : String}

theorem below_root (name : String) : below "" name = name := rfl

theorem below_path (nonempty : path ≠ "") (name : String) : below path name = path ++ "." ++ name := by
  rw [below, if_neg (by simpa using nonempty)]

theorem foldl_below_path (nonempty : path ≠ "") (names : List String) :
    names.foldl below path = FieldPath.dotted (path :: names) := by
  induction names generalizing path with
  | nil => rfl
  | cons name rest ih =>
      rw [List.foldl_cons, below_path nonempty, ih (by simp)]
      rfl

theorem foldl_below (names : List String) :
    names.foldl below "" = FieldPath.dotted (names.dropWhile String.isEmpty) := by
  induction names with
  | nil => rfl
  | cons name rest ih =>
      rw [List.foldl_cons, below_root]
      by_cases none : name = ""
      · rw [none, ih, List.dropWhile_cons_of_pos rfl]
      · rw [foldl_below_path none, List.dropWhile_cons_of_neg (by simpa using none)]

end WireFault

namespace Forest

/-! ## Documents that fit -/

mutual

/-- A document fits a type: any object fits an open map, and an object fits a record if what it has
    under the names of members fits the records there. -/
inductive Admits (forest : Forest) : String → Json → Prop where
  | openMap {type : String} {definition : Definition}
      (found : forest.find? type = some definition) (body : definition.body = .openMap)
      (entries : List (String × Json)) : Admits forest type (.obj entries)
  | record {type : String} {definition : Definition} {members : List Member}
      {entries : List (String × Json)} (found : forest.find? type = some definition)
      (body : definition.body = .record members)
      (each : ∀ member ∈ members, ∀ child raw, member.child? = some child →
        entries.lookup member.name = some raw → AdmitsSlot forest child raw) :
      Admits forest type (.obj entries)

/-- What stands under the name of a member fits the type of the records there: it is `null`, fits
    the type itself, or is a list of what fits the type. -/
inductive AdmitsSlot (forest : Forest) : String → Json → Prop where
  | null (type : String) : AdmitsSlot forest type .null
  | one {type : String} {raw : Json} (fits : Admits forest type raw) : AdmitsSlot forest type raw
  | many {type : String} {items : List Json} (each : ∀ item ∈ items, Admits forest type item) :
      AdmitsSlot forest type (.arr items)

end

/-- What an object has under the name of a member fits, if the member holds records. -/
def AdmitsMember (forest : Forest) (entries : List (String × Json)) (member : Member) : Prop :=
  ∀ child raw, member.child? = some child → entries.lookup member.name = some raw →
    forest.AdmitsSlot child raw

/-! ## The first value that does not fit -/

/-- A value that is no object where a record belongs: the names of the members that lead to it, and
    the wire name of the type of the record. -/
structure Misfit where
  names : List String
  raw : Json
  wireName : String

/-- A misfit below a member. -/
def Misfit.below (name : String) (misfit : Misfit) : Misfit :=
  { misfit with names := name :: misfit.names }

mutual

/-- The first misfit of a document, members in the order of the type: all before it fits. -/
inductive FirstMisfit (forest : Forest) : String → Json → Misfit → Prop where
  | here {type : String} {definition : Definition} {raw : Json}
      (found : forest.find? type = some definition) (other : raw.isObject = false) :
      FirstMisfit forest type raw ⟨[], raw, definition.wireName⟩
  | member {type child : String} {definition : Definition} {members before after : List Member}
      {member : Member} {entries : List (String × Json)} {raw : Json} {misfit : Misfit}
      (found : forest.find? type = some definition) (body : definition.body = .record members)
      (place : members = before ++ member :: after)
      (earlier : ∀ other ∈ before, forest.AdmitsMember entries other)
      (holds : member.child? = some child) (value : entries.lookup member.name = some raw)
      (first : FirstMisfitSlot forest child raw misfit) :
      FirstMisfit forest type (.obj entries) (misfit.below member.name)

/-- The first misfit of what stands under the name of a member, items in their order. -/
inductive FirstMisfitSlot (forest : Forest) : String → Json → Misfit → Prop where
  | one {type : String} {raw : Json} {misfit : Misfit} (bare : raw.isBare)
      (first : FirstMisfit forest type raw misfit) : FirstMisfitSlot forest type raw misfit
  | many {type : String} {items before after : List Json} {item : Json} {misfit : Misfit}
      (place : items = before ++ item :: after)
      (earlier : ∀ other ∈ before, forest.Admits type other)
      (first : FirstMisfit forest type item misfit) :
      FirstMisfitSlot forest type (.arr items) misfit

end

/-- The path of a misfit: the names with dots between them, without empty names in front. -/
def Misfit.path (misfit : Misfit) : String :=
  FieldPath.dotted (misfit.names.dropWhile String.isEmpty)

/-- The fault of a misfit below a path. -/
def Misfit.faultAt (misfit : Misfit) (path : String) : WireFault :=
  .misshaped (misfit.names.foldl WireFault.below path) misfit.raw "object" misfit.wireName

/-! ## Reading what fits -/

/-- Members that hold records are of kinds for which no list is a leaf, and their records have a
    definition. -/
structure Wired (forest : Forest) : Prop where
  kind : ∀ definition ∈ forest.types, ∀ member ∈ definition.members, ∀ type,
    member.child? = some type → member.kind ≠ .denseVector
  child : ∀ definition ∈ forest.types, ∀ member ∈ definition.members, ∀ type,
    member.child? = some type → ∃ below, forest.find? type = some below ∧ below.isPair

variable {forest : Forest}

theorem wired {document : Json} {mapping : Mapping} {config : Config} {root : String}
    (read : Mapping.ofJson document = .ok mapping)
    (compiled : Forest.ofProperties config root mapping.properties = .ok forest) :
    forest.Wired where
  kind := by
    intro definition inside member declared type child
    obtain ⟨wire, element⟩ := element_of_child child
    exact (compoundKinds read compiled).not_vector inside declared element
  child := by
    intro definition inside member declared type child
    obtain ⟨ordered, -⟩ := Mapping.ofJson_placed read
    obtain ⟨index, stands⟩ := List.mem_iff_getElem?.mp inside
    obtain ⟨behind, below, -, belowAt, rfl, pair⟩ :=
      child_later ordered compiled stands declared child
    exact ⟨below, find?_eq_some compiled (List.mem_of_getElem? belowAt), pair⟩

theorem readMember_total {path : String} {entries : List (String × Json)} {member : Member}
    (each : ∀ raw, entries.lookup member.name = some raw →
      ∃ slot, decodeSlot forest (WireFault.below path member.name) member raw = .ok slot) :
    ∃ slot, readMember forest path entries member = .ok slot := by
  unfold readMember
  cases value : entries.lookup member.name with
  | none => exact ⟨none, rfl⟩
  | some raw =>
      obtain ⟨slot, decoded⟩ := each raw value
      exact ⟨some slot, by simp only [decoded]; rfl⟩

theorem decodeItems_total {path type : String} {items : List Json}
    (each : ∀ item ∈ items, ∃ record, decodeAt forest path type item = .ok record) :
    ∃ values, decodeItems forest path type items = .ok values := by
  induction items with
  | nil => exact ⟨[], by rw [decodeItems]⟩
  | cons item rest ih =>
      obtain ⟨⟨record, decoded⟩, later⟩ := List.forall_mem_cons.mp each
      obtain ⟨values, read⟩ := ih later
      exact ⟨_, by rw [decodeItems, decoded, Outcome.ok_bind, read]; rfl⟩

theorem decodeSlot_one {member : Member} {type path : String} {raw : Json}
    (kind : member.kind ≠ .denseVector) (child : member.child? = some type) (bare : raw.isBare) :
    decodeSlot forest path member raw =
      (decodeAt forest path type raw).map fun record => .present [.record record] := by
  rw [decodeSlot, not_isLeafList kind]
  cases raw with
  | null | arr _ => cases bare
  | bool _ | int _ | float _ | str _ | obj _ =>
      simp only [child, Bool.false_eq_true, if_false]
      cases decodeAt forest path type _ <;> rfl

theorem Admits.isBare {type : String} {wire : Json} (fits : forest.Admits type wire) :
    wire.isBare := by
  cases fits <;> rfl

mutual

theorem Admits.decodes {type : String} {wire : Json} (wired : forest.Wired)
    (fits : forest.Admits type wire) (path : String) :
    ∃ record, decodeAt forest path type wire = .ok record := by
  cases fits with
  | openMap found body entries =>
      exact ⟨openRecord entries, by simp [decodeAt, definition_ok found, body]⟩
  | @record _ definition members entries found body each =>
      have inside := List.mem_of_find?_eq_some found
      have total : ∃ record, decodeMembers forest path entries members = .ok record := by
        refine decodeMembers_total fun member declared => readMember_total ?_
        intro raw value
        cases child : member.child? with
        | none => exact ⟨_, decodeSlot_leaves child raw⟩
        | some type =>
            have smaller := Keyed.sizeOf_lt_of_lookup value
            have kind := wired.kind definition inside member
              (Definition.members_of_record body ▸ declared) type child
            exact (each member declared type raw child value).decodes wired kind child _
      obtain ⟨record, read⟩ := total
      exact ⟨record, by simp [decodeAt, definition_ok found, body, read]⟩
termination_by (sizeOf wire, 0)

theorem AdmitsSlot.decodes {type : String} {raw : Json} {member : Member} (wired : forest.Wired)
    (fits : forest.AdmitsSlot type raw) (kind : member.kind ≠ .denseVector)
    (child : member.child? = some type) (path : String) :
    ∃ slot, decodeSlot forest path member raw = .ok slot := by
  cases fits with
  | null => exact ⟨.null, decodeSlot_null kind⟩
  | one fits =>
      obtain ⟨record, read⟩ := fits.decodes wired path
      exact ⟨_, by rw [decodeSlot_one kind child fits.isBare, read]; rfl⟩
  | @many _ items each =>
      have total : ∃ values, decodeItems forest path type items = .ok values := by
        apply decodeItems_total
        intro item among
        have smaller := List.sizeOf_lt_of_mem among
        exact (each item among).decodes wired path
      obtain ⟨values, read⟩ := total
      exact ⟨.present values, decodeSlot_arr kind (by rw [child]; exact read)⟩
termination_by (sizeOf raw, 1)

end

/-! ## Failing at the first misfit -/

theorem decodeAt_other {type path : String} {definition : Definition} {raw : Json}
    (found : forest.find? type = some definition) (other : raw.isObject = false) :
    decodeAt forest path type raw = .error (.misshaped path raw "object" definition.wireName) := by
  rw [decodeAt, definition_ok found]
  cases raw with
  | obj _ => cases other
  | null | bool _ | int _ | float _ | str _ | arr _ => rfl

theorem decodeMembers_fails {path : String} {entries : List (String × Json)}
    {before after : List Member} {member : Member} {raw : Json} {fault : WireFault}
    (earlier : ∀ other ∈ before, ∃ slot, readMember forest path entries other = .ok slot)
    (value : entries.lookup member.name = some raw)
    (fails : decodeSlot forest (WireFault.below path member.name) member raw = .error fault) :
    decodeMembers forest path entries (before ++ member :: after) = .error fault := by
  induction before with
  | nil =>
      rw [List.nil_append, decodeMembers]
      split
      next missing => simp [missing] at value
      next held found =>
        cases value.symm.trans found
        rw [fails]
  | cons first rest ih =>
      obtain ⟨here, later⟩ := List.forall_mem_cons.mp earlier
      obtain ⟨slot, own⟩ := here
      rw [List.cons_append, decodeMembers_read own, ih later]
      rfl

theorem decodeItems_fails {path type : String} {before after : List Json} {item : Json}
    {fault : WireFault}
    (earlier : ∀ other ∈ before, ∃ record, decodeAt forest path type other = .ok record)
    (fails : decodeAt forest path type item = .error fault) :
    decodeItems forest path type (before ++ item :: after) = .error fault := by
  induction before with
  | nil =>
      rw [List.nil_append, decodeItems, fails]
      rfl
  | cons first rest ih =>
      obtain ⟨⟨record, decoded⟩, later⟩ := List.forall_mem_cons.mp earlier
      rw [List.cons_append, decodeItems, decoded, Outcome.ok_bind, ih later]
      rfl

theorem AdmitsMember.reads {definition : Definition} {member : Member}
    {entries : List (String × Json)} (wired : forest.Wired) (inside : definition ∈ forest.types)
    (declared : member ∈ definition.members) (fits : forest.AdmitsMember entries member)
    (path : String) : ∃ slot, readMember forest path entries member = .ok slot := by
  refine readMember_total ?_
  intro raw value
  cases child : member.child? with
  | none => exact ⟨_, decodeSlot_leaves child raw⟩
  | some type =>
      have kind := wired.kind definition inside member declared type child
      exact (fits type raw child value).decodes wired kind child _

mutual

/-- The reading of a document fails at its first misfit. -/
theorem FirstMisfit.decodes {type : String} {wire : Json} {misfit : Misfit} (wired : forest.Wired)
    (first : forest.FirstMisfit type wire misfit) (path : String) :
    decodeAt forest path type wire = .error (misfit.faultAt path) := by
  cases first with
  | here found other => exact decodeAt_other found other
  | @member _ child definition members before after member entries raw misfit found body place
      earlier holds value first =>
      have inside := List.mem_of_find?_eq_some found
      have declared : definition.members = before ++ member :: after :=
        (Definition.members_of_record body).trans place
      have smaller := Keyed.sizeOf_lt_of_lookup value
      have kind := wired.kind definition inside member (by simp [declared]) child holds
      have fails := first.decodes wired kind holds (WireFault.below path member.name)
      have whole : decodeMembers forest path entries members =
          .error (misfit.faultAt (WireFault.below path member.name)) := by
        rw [place]
        refine decodeMembers_fails ?_ value fails
        intro other among
        exact (earlier other among).reads wired inside (by simp [declared, among]) path
      simp [decodeAt, definition_ok found, body, whole]
      rfl
termination_by (sizeOf wire, 0)

theorem FirstMisfitSlot.decodes {type : String} {raw : Json} {misfit : Misfit} {member : Member}
    (wired : forest.Wired) (first : forest.FirstMisfitSlot type raw misfit)
    (kind : member.kind ≠ .denseVector) (child : member.child? = some type) (path : String) :
    decodeSlot forest path member raw = .error (misfit.faultAt path) := by
  match raw, first with
  | _, .one bare first =>
      rw [decodeSlot_one kind child bare, first.decodes wired path]
      rfl
  | .arr items, @FirstMisfitSlot.many _ _ _ before after item _ place earlier first =>
      have smaller : sizeOf item < sizeOf items := List.sizeOf_lt_of_mem (by simp [place])
      have whole : decodeItems forest path type items = .error (misfit.faultAt path) := by
        rw [place]
        refine decodeItems_fails ?_ (first.decodes wired path)
        intro other among
        exact (earlier other among).decodes wired path
      rw [decodeSlot, not_isLeafList kind]
      simp [child, whole, bind, Except.bind]
termination_by (sizeOf raw, 1)

end

/-! ## Every document fits or has a first misfit -/

mutual

theorem admits_or_misfit (wired : forest.Wired) {type : String} {definition : Definition}
    (found : forest.find? type = some definition) (pair : definition.isPair) (wire : Json) :
    forest.Admits type wire ∨ ∃ misfit, forest.FirstMisfit type wire misfit := by
  match wire with
  | .null | .bool _ | .int _ | .float _ | .str _ | .arr _ => exact .inr ⟨_, .here found rfl⟩
  | .obj entries =>
      cases body : definition.body with
      | openMap => exact .inl (.openMap found body entries)
      | date _ | aggregate _ => simp [Definition.isPair, body] at pair
      | record members =>
          have inside := List.mem_of_find?_eq_some found
          have each : ∀ member ∈ members, forest.AdmitsMember entries member ∨
              ∃ child raw misfit, member.child? = some child ∧
                entries.lookup member.name = some raw ∧
                forest.FirstMisfitSlot child raw misfit := by
            intro member declared
            cases child : member.child? with
            | none => exact .inl (by simp [AdmitsMember, child])
            | some type =>
                cases value : entries.lookup member.name with
                | none => exact .inl (by simp [AdmitsMember, value])
                | some raw =>
                    have smaller := Keyed.sizeOf_lt_of_lookup value
                    obtain ⟨below, known, belowPair⟩ := wired.child definition inside member
                      (Definition.members_of_record body ▸ declared) type child
                    rcases admitsSlot_or_misfit wired known belowPair raw with
                      fits | ⟨misfit, first⟩
                    · refine .inl ?_
                      intro other held belongs same
                      cases child.symm.trans belongs
                      cases value.symm.trans same
                      exact fits
                    · exact .inr ⟨type, raw, misfit, rfl, rfl, first⟩
          rcases Lists.all_or_first each with all | ⟨before, member, after, place, earlier, first⟩
          · exact .inl (.record found body all)
          · obtain ⟨child, raw, misfit, holds, value, first⟩ := first
            exact .inr ⟨_, .member found body place earlier holds value first⟩
termination_by (sizeOf wire, 0)

theorem admitsSlot_or_misfit (wired : forest.Wired) {type : String} {definition : Definition}
    (found : forest.find? type = some definition) (pair : definition.isPair) (raw : Json) :
    forest.AdmitsSlot type raw ∨ ∃ misfit, forest.FirstMisfitSlot type raw misfit := by
  match raw with
  | .null => exact .inl (.null type)
  | .arr items =>
      have each : ∀ item ∈ items, forest.Admits type item ∨
          ∃ misfit, forest.FirstMisfit type item misfit := by
        intro item among
        have smaller := List.sizeOf_lt_of_mem among
        exact admits_or_misfit wired found pair item
      rcases Lists.all_or_first each with all | ⟨before, item, after, place, earlier, misfit, first⟩
      · exact .inl (.many all)
      · exact .inr ⟨misfit, .many place earlier first⟩
  | .bool _ | .int _ | .float _ | .str _ | .obj _ =>
      rcases admits_or_misfit wired found pair _ with fits | ⟨misfit, first⟩
      · exact .inl (.one fits)
      · exact .inr ⟨misfit, .one rfl first⟩
termination_by (sizeOf raw, 1)

end

theorem Misfit.faultAt_root (misfit : Misfit) : misfit.faultAt "" =
    .shape misfit.path ⟨misfit.raw.text, ["object"], misfit.wireName⟩ := by
  rw [faultAt, WireFault.foldl_below]
  rfl

theorem Misfit.path_of_named {misfit : Misfit} (named : misfit.names.head? ≠ some "") :
    misfit.path = FieldPath.dotted misfit.names := by
  rw [path]
  cases names : misfit.names with
  | nil => rfl
  | cons name rest =>
      have nonempty : name ≠ "" := by simpa [names] using named
      rw [List.dropWhile_cons_of_neg (by simpa using nonempty)]

/-- What is read as a type: the documents that fit it, and of the others the first misfit is told.
    Its path is the dotted one unless the first name is empty. -/
structure Checks (forest : Forest) (type : String) (wire : Json) : Prop where
  accepts : (∃ record, forest.decode type wire = .ok record) ↔ forest.Admits type wire
  rejects : ∀ fault, forest.decode type wire = .error fault ↔
    ∃ misfit, forest.FirstMisfit type wire misfit ∧
      fault = .shape misfit.path ⟨misfit.raw.text, ["object"], misfit.wireName⟩
  dotted : ∀ misfit, forest.FirstMisfit type wire misfit → misfit.names.head? ≠ some "" →
    misfit.path = FieldPath.dotted misfit.names

end Forest

/-- Reading a stored document as a record or an open map of a compiled forest succeeds for the
    documents that fit the type, and fails at the first misfit of any other. -/
theorem decoding_checks_documents {document : Json} {mapping : Mapping} {config : Config}
    {root : String} {forest : Forest} (read : Mapping.ofJson document = .ok mapping)
    (compiled : Forest.ofProperties config root mapping.properties = .ok forest)
    {definition : Definition} (inside : definition ∈ forest.types) (pair : definition.isPair)
    (wire : Json) : forest.Checks definition.name wire := by
  have wired := Forest.wired read compiled
  have found := Forest.find?_eq_some compiled inside
  have decided := Forest.admits_or_misfit wired found pair wire
  refine ⟨⟨?_, ?_⟩, ?_, fun misfit _ named => Forest.Misfit.path_of_named named⟩
  · rintro ⟨record, decoded⟩
    refine decided.resolve_right ?_
    rintro ⟨misfit, first⟩
    cases decoded.symm.trans (first.decodes wired "")
  · intro fits
    exact fits.decodes wired ""
  · intro fault
    constructor
    · intro failed
      rcases decided with fits | ⟨misfit, first⟩
      · obtain ⟨record, decoded⟩ := fits.decodes wired ""
        cases failed.symm.trans decoded
      · refine ⟨misfit, first, ?_⟩
        rw [← Forest.Misfit.faultAt_root]
        exact Except.error.inj (failed.symm.trans (first.decodes wired ""))
    · rintro ⟨misfit, first, rfl⟩
      rw [← Forest.Misfit.faultAt_root]
      exact first.decodes wired ""

namespace Sample

/-- A document with two managers, of whom the second has a number where an object belongs. -/
def misfitting : Json :=
  .obj [("manager", .arr [.obj [("extra", .null)], .obj [("age", .int 1), ("extra", .int 5)]]),
    ("other", .int 2)]

theorem misfitting_first : forest.FirstMisfit "Doc" misfitting
    ⟨["manager", "extra"], .int 5, "ExtraRaw"⟩ := by
  have extraFound : forest.find? "Extra" = some extra := by with_unfolding_all rfl
  have managerFound : forest.find? "Manager" = some manager := by with_unfolding_all rfl
  have docFound : forest.find? "Doc" = some doc := by with_unfolding_all rfl
  have number : forest.FirstMisfitSlot "Extra" (.int 5) ⟨[], .int 5, "ExtraRaw"⟩ :=
    .one rfl (.here extraFound rfl)
  have second : forest.FirstMisfit "Manager" (.obj [("age", .int 1), ("extra", .int 5)])
      ⟨["extra"], .int 5, "ExtraRaw"⟩ := by
    refine .member managerFound rfl (rfl : _ = [_] ++ _ :: []) ?_ rfl
      (by with_unfolding_all rfl) number
    simp [Forest.AdmitsMember, Member.child?]
  have first : forest.Admits "Manager" (.obj [("extra", .null)]) := by
    refine .record managerFound rfl ?_
    simp [Member.child?, Forest.AdmitsSlot.null]
  have managers : forest.FirstMisfitSlot "Manager"
      (.arr [.obj [("extra", .null)], .obj [("age", .int 1), ("extra", .int 5)]])
      ⟨["extra"], .int 5, "ExtraRaw"⟩ := by
    refine .many (rfl : _ = [_] ++ _ :: []) ?_ second
    simpa using first
  refine .member docFound rfl (rfl : _ = [_] ++ _ :: []) ?_ rfl
    (by with_unfolding_all rfl) managers
  simp [Forest.AdmitsMember, Member.child?]

end Sample

theorem sample_decoding_checks_documents :
    Sample.forest.decode "Doc" Sample.misfitting =
        .error (.shape "manager.extra" ⟨"5", ["object"], "ExtraRaw"⟩) ∧
      Sample.forest.Admits "Doc" Sample.unmanaged := by
  have inside : Sample.doc ∈ Sample.forest.types := List.mem_cons_self
  have checks := decoding_checks_documents Sample.mapped Sample.compiled inside rfl
  refine ⟨((checks Sample.misfitting).rejects _).mpr ⟨_, Sample.misfitting_first, ?_⟩, ?_⟩
  · with_unfolding_all rfl
  · exact (checks Sample.unmanaged).accepts.mp ⟨_, Sample.unmanaged_read⟩

namespace Sample

/-- An index whose field without a name has an open field. -/
def namelessDocument : Json :=
  .obj [("", .obj [("properties", .obj [("x", .obj [("dynamic", .bool true)])])])]

def namelessProperties : Properties :=
  [("", .compound .object [] [""] none
    [("x", .compound .object [] ["", "x"] (some .accepted) [])])]

def namelessDoc : Definition :=
  { name := "Doc", wireName := "DocRaw", path := ["doc"], kind := .object
    body := .record
      [⟨"", "field", .object, {}, .compound "Unnamed" "UnnamedRaw", .optionalList, .array⟩]
    dependencies := [Compile.fieldScope, Compile.recordScope] }

def unnamed : Definition :=
  { name := "Unnamed", wireName := "UnnamedRaw", path := ["doc", ""], kind := .object
    body := .record [⟨"x", "x", .object, {}, .compound "X" "XRaw", .optionalList, .array⟩]
    dependencies := [Compile.fieldScope, Compile.recordScope] }

def openX : Definition :=
  Compile.openDefinition "X" "XRaw" ["doc", "", "x"] .object

def namelessForest : Forest := ⟨"Doc", [namelessDoc, unnamed, openX]⟩

theorem nameless_mapped : Mapping.ofJson namelessDocument = .ok ⟨none, namelessProperties⟩ := by
  with_unfolding_all rfl

theorem nameless_compiled :
    Forest.ofProperties {} "doc" namelessProperties = .ok namelessForest := by
  with_unfolding_all rfl

/-- A number where the open field belongs. -/
def namelessMisfit : Json :=
  .obj [("", .obj [("x", .int 5)])]

theorem namelessMisfit_first : namelessForest.FirstMisfit "Doc" namelessMisfit
    ⟨["", "x"], .int 5, "XRaw"⟩ := by
  have xFound : namelessForest.find? "X" = some openX := by with_unfolding_all rfl
  have unnamedFound : namelessForest.find? "Unnamed" = some unnamed := by with_unfolding_all rfl
  have docFound : namelessForest.find? "Doc" = some namelessDoc := by with_unfolding_all rfl
  have number : namelessForest.FirstMisfitSlot "X" (.int 5) ⟨[], .int 5, "XRaw"⟩ :=
    .one rfl (.here xFound rfl)
  have inner : namelessForest.FirstMisfit "Unnamed" (.obj [("x", .int 5)])
      ⟨["x"], .int 5, "XRaw"⟩ :=
    .member unnamedFound rfl (rfl : _ = [] ++ _ :: []) (by simp) rfl rfl number
  exact .member docFound rfl (rfl : _ = [] ++ _ :: []) (by simp) rfl rfl (.one rfl inner)

theorem namelessMisfit_fails : namelessForest.decode "Doc" namelessMisfit =
    .error (.shape "x" ⟨"5", ["object"], "XRaw"⟩) := by
  simp [Forest.decode, Forest.decodeAt, Forest.definition, Forest.find?, namelessForest,
    namelessDoc, unnamed, openX, Compile.openDefinition, namelessMisfit, Forest.decodeMembers,
    Forest.decodeSlot, Forest.isLeafList, List.lookup_cons, Member.child?, WireFault.below,
    WireFault.misshaped, bind, Except.bind]
  with_unfolding_all rfl

end Sample

/-- Below a member with an empty name the path of the first misfit is not the dotted one. -/
theorem sample_empty_name_is_lost :
    Mapping.ofJson Sample.namelessDocument = .ok ⟨none, Sample.namelessProperties⟩ ∧
      Forest.ofProperties {} "doc" Sample.namelessProperties = .ok Sample.namelessForest ∧
        Sample.namelessForest.FirstMisfit "Doc" Sample.namelessMisfit
          ⟨["", "x"], .int 5, "XRaw"⟩ ∧
          FieldPath.dotted ["", "x"] = ".x" ∧
            Sample.namelessForest.decode "Doc" Sample.namelessMisfit =
              .error (.shape "x" ⟨"5", ["object"], "XRaw"⟩) :=
  ⟨Sample.nameless_mapped, Sample.nameless_compiled, Sample.namelessMisfit_first, by decide,
    Sample.namelessMisfit_fails⟩

end StoreSchema
