import StoreSchema.Policy.Global
import StoreSchema.Proofs.Json.Differences
import StoreSchema.Proofs.Json.Objects

/-! # Refused preferences

A layer that shares its object with its owner is read last, from what the owner put aside, so that a
preference which is refused is reported at the owner. The layers by kind stand alone and name their
parts, but the table that holds them does not name the kinds. So no report of a refused preference
has the path of the value.
-/

namespace StoreSchema

open Decoding (Error Cause Result Step)
open Document (Differ)

/-! ## Values that no layer takes -/

namespace Layer

/-- The names of the flags among the preferences. -/
def flagNames : List String :=
  ["required", "single", "prefer_string_boolean", "prefer_epoch"]

/-- The values that a layer refuses under the name of a preference: what is no flag, and a layout
    of dates that is no text. -/
inductive Refuses : String → Json → Prop where
  | flag {name : String} {value : Json} {misfit : Flag.Misfit} (listed : name ∈ flagNames)
      (unfit : Flag.ofJson value = .error misfit) : Refuses name value
  | format {value : Json} (noText : value.str? = none) : Refuses "preferred_date_format" value

theorem Refuses.mem_names {name : String} {value : Json} (refuses : Refuses name value) :
    name ∈ fields.map (·.name) := by
  have flags : flagNames ⊆ fields.map (·.name) := by decide
  cases refuses with
  | flag listed _ => exact flags listed
  | format _ => decide

end Layer

/-- A reading fails at a place for what the value is, and not for the grammar. -/
def Decoding.FailsAt {α : Type} (place : List Step) (result : Result α) : Prop :=
  ∃ cause, cause ≠ .ungrammatical ∧ result = .error ⟨place, cause⟩

theorem Flag.read_unfit {document : Document} {value : Json} {misfit : Misfit}
    (denotes : document.value? = some value) (unfit : ofJson value = .error misfit) :
    read document = Decoding.fail (.refused misfit.message) := by
  rw [read, Decoding.anyValue, denotes]
  simp only [Outcome.ok_bind, unfit]

theorem Decoding.string_noText {document : Document} {value : Json}
    (denotes : document.value? = some value) (noText : value.str? = none) :
    ∃ found, string document = fail (.wrongType found "a string") := by
  cases document with
  | scalar own =>
      cases denotes
      cases value with
      | str text => cases noText
      | null | bool | int | float | arr | obj => exact ⟨_, rfl⟩
  | arr items ending => exact ⟨.sequence, rfl⟩
  | obj members ending => exact ⟨.map, rfl⟩
  | cut => cases denotes

/-- The field of a preference fails on a document, whatever the layer holds. -/
def Layer.Denies (name : String) (document : Document) (cause : Cause) : Prop :=
  ∃ field, fields.find? (·.name == name) = some field ∧
    ∀ layer, field.read document layer = Decoding.fail cause

theorem Layer.Refuses.denies {name : String} {value : Json} (refuses : Refuses name value)
    {document : Document} (denotes : document.value? = some value) :
    ∃ cause, cause ≠ .ungrammatical ∧ Denies name document cause := by
  cases refuses with
  | @flag _ _ misfit listed unfit =>
      have refused := Flag.read_unfit denotes unfit
      simp only [flagNames, List.mem_cons, List.not_mem_nil, or_false] at listed
      rcases listed with rfl | rfl | rfl | rfl <;>
        exact ⟨.refused misfit.message, nofun, _, rfl, Decoding.field_fails refused _⟩
  | format noText =>
      obtain ⟨found, refused⟩ := Decoding.string_noText denotes noText
      exact ⟨.wrongType found "a string", nofun, _, rfl, Decoding.field_fails refused _⟩

/-! ## Values that are put aside -/

namespace Document

mutual

theorem denotes_ofJson : (value : Json) → ∃ again, (ofJson value).value? = some again
  | .arr items => by
      obtain ⟨values, found⟩ := denotes_ofItems items
      exact ⟨.arr values, by rw [ofJson, value?, if_pos rfl, found]; rfl⟩
  | .obj members => by
      obtain ⟨values, found⟩ := denotes_ofMembers [] members
      exact ⟨.obj values, by rw [ofJson, value?, if_pos rfl, found]; rfl⟩
  | .null | .bool _ | .int _ | .float _ | .str _ => ⟨_, rfl⟩

theorem denotes_ofItems : (items : List Json) → ∃ values, itemValues? (ofItems items) = some values
  | [] => ⟨[], rfl⟩
  | item :: rest => by
      obtain ⟨value, here⟩ := denotes_ofJson item
      obtain ⟨values, later⟩ := denotes_ofItems rest
      exact ⟨value :: values, by rw [ofItems, itemValues?, here, later]; rfl⟩

theorem denotes_ofMembers (before : List (String × Json)) : (members : List (String × Json)) →
    ∃ values, memberValues? before (ofMembers members) = some values
  | [] => ⟨before, rfl⟩
  | (key, value) :: rest => by
      obtain ⟨own, here⟩ := denotes_ofJson value
      obtain ⟨values, later⟩ := denotes_ofMembers (Keyed.put key own before) rest
      exact ⟨values, by rw [ofMembers, memberValues?, here]; exact later⟩

end

end Document

theorem Layer.Refuses.aside {name : String} {value : Json} (refuses : Refuses name value) :
    ∃ again, (Document.ofJson value).value? = some again ∧ Refuses name again := by
  obtain ⟨again, denoted⟩ := Document.denotes_ofJson value
  refine ⟨again, denoted, ?_⟩
  -- Keys that repeat may be lost on the way, but a container stays one.
  have container : Flag.ofJson again = .error (.noFlag again) → again.str? = none →
      Refuses name again := by
    intro unfit noText
    cases refuses with
    | flag listed _ => exact .flag listed unfit
    | format _ => exact .format noText
  cases value with
  | null | bool | int | float | str => exact Option.some.inj denoted ▸ refuses
  | arr items =>
      rw [Document.ofJson, Document.value?, if_pos rfl, Option.map_eq_some_iff] at denoted
      obtain ⟨values, -, rfl⟩ := denoted
      exact container rfl rfl
  | obj members =>
      rw [Document.ofJson, Document.value?, if_pos rfl, Option.map_eq_some_iff] at denoted
      obtain ⟨values, -, rfl⟩ := denoted
      exact container rfl rfl

/-! ## Layers that stand alone -/

/-- The steps from a layer to a preference: its name, or its position where the layer is a list. -/
inductive Layer.Leads (name : String) : Step → Prop where
  | key : Leads name (.key name)
  | index {position : Nat} (placed : (fields.map (·.name))[position]? = some name) :
      Leads name (.index position)

section

variable {pref : String} {value : Json} {cause : Cause} {one other valid bad : Document}

theorem Layer.read_fails {delivery : Decoding.Delivery} {step : Step} {layer : Layer}
    (denies : Denies pref other cause) (leads : Leads pref step)
    (differ : Differ one other [step] valid bad) (done : read delivery valid = .ok layer) :
    read delivery bad = .error ⟨[step], cause⟩ := by
  obtain ⟨field, found, fails⟩ := denies
  cases differ with
  | member before _ after ending below =>
      cases leads
      cases below
      obtain ⟨record, filled, -⟩ := Outcome.bind_eq_ok.mp done
      have failed := Decoding.membersWith_fails found (fun record _ _ => fails record) filled
      rw [read, Decoding.record, Decoding.members, failed]
      rfl
  | item before after ending below =>
      cases leads with
      | index placed =>
          cases below
          rw [List.getElem?_map, Option.map_eq_some_iff] at placed
          obtain ⟨own, known, named⟩ := placed
          have same : own = field := by
            have distinct : (fields.map (·.name)).Nodup := by decide
            have again := Decoding.find?_field distinct (List.mem_of_getElem? known)
            rw [named, found] at again
            exact (Option.some.inj again).symm
          obtain ⟨record, filled, -⟩ := Outcome.bind_eq_ok.mp done
          have failed := Decoding.positions_fails (same ▸ known) fails filled
          rw [read, Decoding.record, failed, Nat.zero_add]
          rfl

/-! ## Layers in the object of their owner -/

/-- Reads an object with a layer in it next to one field of its own. -/
def Layer.readBeside {σ α : Type} (own : Decoding.Field (σ × List (String × Json))) (start : σ)
    (build : σ → Layer → α) (members : List (Option String × Document)) (ending : Ending) :
    Result α := do
  let (state, entries) ← Decoding.membersWith [own] Decoding.putAside [] (start, []) members
  if ending = .closed then
    let layer ← readShared entries
    pure (build state layer)
  else Decoding.fail .ungrammatical

section

variable {σ α β : Type} {name : String} {read : Document → Result β} {put : β → σ → σ} {start : σ}
  {build : σ → Layer → α} {left right : Document} {before after : List (Option String × Document)}
  {ending : Ending} {result : α}

theorem Layer.readBeside_own {e : Error}
    (fails : ∀ value, read left = .ok value → read right = .error e)
    (done : readBeside (Decoding.beside name read put) start build
      (before ++ (some name, left) :: after) ending = .ok result) :
    readBeside (Decoding.beside name read put) start build
      (before ++ (some name, right) :: after) ending = .error ⟨.key name :: e.path, e.cause⟩ := by
  have found : [Decoding.beside name read put].find? (·.name == name) =
      some (Decoding.beside name read put) :=
    List.find?_cons_of_pos (beq_self_eq_true name)
  have fieldFails : ∀ record next, (Decoding.beside name read put).read left record = .ok next →
      (Decoding.beside name read put).read right record = .error e := by
    intro record next reads
    obtain ⟨value, first, -⟩ := Outcome.bind_eq_ok.mp reads
    exact Decoding.field_fails (fails value first) _ record
  obtain ⟨record, filled, -⟩ := Outcome.bind_eq_ok.mp done
  rw [readBeside, Decoding.membersWith_fails found fieldFails filled]
  rfl

/-- A fault of the layer is placed at the object, as the layer is read from what was put aside. -/
theorem Layer.readBeside_layer (foreign : name ≠ pref) (denotes : other.value? = some value)
    (denies : Denies pref (.ofJson value) cause)
    (done : readBeside (Decoding.beside name read put) start build
      (before ++ (some pref, one) :: after) ending = .ok result) :
    readBeside (Decoding.beside name read put) start build
      (before ++ (some pref, other) :: after) ending = Decoding.fail cause := by
  obtain ⟨field, found, fails⟩ := denies
  have plain : Decoding.anyValue other = .ok value := by rw [Decoding.anyValue, denotes]
  obtain ⟨⟨state, entries⟩, filled, done⟩ := Outcome.bind_eq_ok.mp done
  obtain ⟨front, old, back, rfl, replaced⟩ := Decoding.membersWith_replaces foreign plain filled
  dsimp only at done
  split at done
  next closed =>
    obtain ⟨layer, shared, -⟩ := Outcome.bind_eq_ok.mp done
    have failed := Decoding.shared_fails found fails shared
    rw [readBeside, replaced, Outcome.ok_bind]
    simp only [closed, if_true]
    rw [readShared, failed]
    rfl
  next => cases done

end

/-! ## Overrides -/

/-- The field of the children, next to the members that are put aside. -/
def FieldPolicy.childrenField : Decoding.Field (Option Overrides × List (String × Json)) :=
  Decoding.beside "children" Overrides.read fun children _ => some children

theorem FieldPolicy.readMembers_eq (children : Option Overrides) (entries : List (String × Json))
    (members : List (Option String × Document)) :
    readMembers children entries members =
      Decoding.membersWith [childrenField] Decoding.putAside
        (if children.isSome then ["children"] else []) (children, entries) members := by
  induction members generalizing children entries with
  | nil => rfl
  | cons member rest ih =>
      obtain ⟨_ | name, content⟩ := member
      · rfl
      by_cases own : name = "children"
      · subst own
        cases children with
        | some before => rfl
        | none =>
            simp only [readMembers, Decoding.membersWith, childrenField, Decoding.beside,
              Decoding.field, List.find?_cons_of_pos, beq_self_eq_true]
            cases Overrides.read content with
            | error e => rfl
            | ok overrides => exact ih (some overrides) entries
      · have absent : [childrenField].find? (·.name == name) = none := by
          simpa [childrenField, Decoding.beside, Decoding.field] using Ne.symm own
        rw [readMembers, if_neg own, Decoding.membersWith]
        simp only [absent, Decoding.putAside]
        cases Decoding.anyValue content with
        | error e => rfl
        | ok value => exact ih children (entries ++ [(name, value)])

theorem FieldPolicy.read_obj (members : List (Option String × Document)) (ending : Ending) :
    read (.obj members ending) =
      Layer.readBeside childrenField none (fun children layer => .mk layer (children.getD []))
        members ending := by
  rw [read, readMembers_eq]
  rfl

theorem Overrides.readEntries_eq (before : Overrides) (members : List (Option String × Document)) :
    readEntries before members =
      Decoding.entriesWith Step.key .ok FieldPolicy.read Keyed.insert before members := by
  induction members generalizing before with
  | nil => rfl
  | cons member rest ih =>
      obtain ⟨_ | name, content⟩ := member
      · rfl
      rw [readEntries, Decoding.entriesWith, Decoding.within_ok, Outcome.ok_bind]
      exact bind_congr fun field => ih _

theorem Overrides.read_fails_below {e : Error} {name : String} {left right : Document}
    {before after : List (Option String × Document)} {ending : Ending} {overrides : Overrides}
    (fails : ∀ policy, FieldPolicy.read left = .ok policy → FieldPolicy.read right = .error e)
    (done : read (.obj (before ++ (some name, left) :: after) ending) = .ok overrides) :
    read (.obj (before ++ (some name, right) :: after) ending) =
      .error ⟨.key name :: e.path, e.cause⟩ := by
  rw [read, readEntries_eq] at done ⊢
  obtain ⟨table, filled, -⟩ := Outcome.bind_eq_ok.mp done
  rw [Decoding.entriesWith_fails fails filled]
  rfl

/-- The places of the objects that hold the layers of overrides. -/
inductive Overrides.Owner : List Step → Prop where
  | field (name : String) : Owner [.key name]
  | child (name : String) {place : List Step} (below : Owner place) :
      Owner (.key name :: .key "children" :: place)

/-- A preference that overrides refuse is reported at the object that holds it. -/
theorem Overrides.read_fails {place : List Step} (owner : Owner place) (foreign : "children" ≠ pref)
    (denotes : other.value? = some value) (denies : Layer.Denies pref (.ofJson value) cause)
    (differ : Differ one other (place ++ [.key pref]) valid bad) {overrides : Overrides}
    (done : read valid = .ok overrides) : read bad = .error ⟨place, cause⟩ := by
  -- Each step down goes through the children of a field, whose own faults keep their places.
  induction owner generalizing valid bad overrides with
  | field name =>
      cases differ with
      | member before _ after ending inside =>
          refine read_fails_below (e := ⟨[], cause⟩) (fun policy reads => ?_) done
          cases inside with
          | member front _ back closing there =>
              cases there
              rw [FieldPolicy.read_obj] at reads ⊢
              exact Layer.readBeside_layer foreign denotes denies reads
  | @child name place below ih =>
      simp only [List.cons_append] at differ
      cases differ with
      | member before _ after ending inside =>
          refine read_fails_below (e := ⟨.key "children" :: place, cause⟩) (fun policy reads => ?_)
            done
          cases inside with
          | member front _ back closing inner =>
              rw [FieldPolicy.read_obj] at reads ⊢
              exact Layer.readBeside_own (e := ⟨place, cause⟩) (fun _ => ih inner) reads

/-! ## Preferences for everything -/

theorem GlobalPolicy.read_obj (delivery : Decoding.Delivery)
    (members : List (Option String × Document)) (ending : Ending) :
    read delivery (.obj members ending) =
      Layer.readBeside
        (Decoding.beside "type_option" (readByKind delivery) fun layers _ => layers) []
        (fun layers layer => ⟨layer, layers⟩) members ending := rfl

theorem GlobalPolicy.read_fails_general {delivery : Decoding.Delivery}
    (foreign : "type_option" ≠ pref) (denotes : other.value? = some value)
    (denies : Layer.Denies pref (.ofJson value) cause)
    (differ : Differ one other [.key pref] valid bad) {policy : GlobalPolicy}
    (done : read delivery valid = .ok policy) : read delivery bad = Decoding.fail cause := by
  cases differ with
  | member before _ after ending there =>
      cases there
      rw [read_obj] at done ⊢
      exact Layer.readBeside_layer foreign denotes denies done

theorem GlobalPolicy.read_fails_byKind {delivery : Decoding.Delivery} {kind : String} {step : Step}
    (denies : Layer.Denies pref other cause) (leads : Layer.Leads pref step)
    (differ : Differ one other [.key "type_option", .key kind, step] valid bad)
    {policy : GlobalPolicy} (done : read delivery valid = .ok policy) :
    read delivery bad = .error ⟨[.key "type_option", .unnamed, step], cause⟩ := by
  cases differ with
  | member before _ after ending inside =>
      rw [read_obj] at done ⊢
      refine Layer.readBeside_own (e := ⟨[.unnamed, step], cause⟩) (fun layers reads => ?_) done
      cases inside with
      | member front _ back closing inner =>
          rw [readByKind] at reads ⊢
          obtain ⟨table, filled, -⟩ := Outcome.bind_eq_ok.mp reads
          rw [Decoding.entriesWith_fails (fun _ => Layer.read_fails denies leads inner) filled]
          rfl

end

/-! ## Reports -/

namespace Decoding

theorem pathTail_append (place more : List Step) :
    pathTail (place ++ more) = pathTail place ++ pathTail more := by
  induction place with
  | nil => simp [pathTail]
  | cons step rest ih =>
      cases step <;> simp [pathTail, ih, String.append_assoc]

theorem pathText_member {place : List Step} (below : place ≠ []) (name : String) :
    pathText place ≠ pathText (place ++ [.key name]) := by
  cases place with
  | nil => exact absurd rfl below
  | cons step rest =>
      intro same
      have lengths := congrArg String.length same
      simp [pathText, pathTail_append, pathTail, Step.text] at lengths

/-- A reading fails for what a value is, but it is not reported with the path of the value. -/
structure Misplaced {α : Type} (place reported : List Step) (result : Result α) : Prop where
  fails : FailsAt reported result
  elsewhere : pathText reported ≠ pathText place

theorem ofText_error {α : Type} {read : Document → Result α} {text : String} {e : Error}
    (fails : read (Document.ofSigns (Text.signs text)).1 = .error e) :
    ofText read text = .error e := by
  rw [ofText, ofSigns]
  simp only [fails]
  rfl

end Decoding

theorem Overrides.Owner.ne_nil {place : List Step} (owner : Owner place) : place ≠ [] := by
  cases owner <;> exact List.cons_ne_nil _ _

theorem Layer.pathText_general {name : String} (declared : name ∈ fields.map (·.name)) :
    Decoding.pathText [] ≠ Decoding.pathText [.key name] := by
  have each : ∀ name ∈ fields.map (·.name),
      Decoding.pathText [] ≠ Decoding.pathText [.key name] := by decide
  exact each name declared

theorem Kind.pathText_unnamed (kind : Kind) (step : Step) :
    Decoding.pathText [.key "type_option", .unnamed, step] ≠
      Decoding.pathText [.key "type_option", .key kind.name, step] := by
  have other : Step.unnamed.text ≠ kind.name := by cases kind <;> decide
  intro same
  simp only [Decoding.pathText, Decoding.pathTail, String.append_assoc, String.append_right_inj,
    String.append_left_inj] at same
  exact other same

open Decoding in
/-- A preference that is refused is never reported at its path. Where a text differs from what can
    be read only in a value that its layer refuses, the reading fails for what the value is. In
    overrides, at any depth, it is reported at the object that holds the preference, among the
    general preferences at the root, and among those of a kind without the name of the kind. -/
theorem refused_preferences_are_misplaced {text pref : String} {valid one other : Document}
    {value : Json} (refuses : Layer.Refuses pref value) (denotes : other.value? = some value) :
    (∀ {overrides place}, Overrides.read valid = .ok overrides → Overrides.Owner place →
      Differ one other (place ++ [.key pref]) valid (Document.ofSigns (Text.signs text)).1 →
        Misplaced (place ++ [.key pref]) place (ofText Overrides.read text)) ∧
    (∀ {policy}, GlobalPolicy.read .text valid = .ok policy →
      (Differ one other [.key pref] valid (Document.ofSigns (Text.signs text)).1 →
        Misplaced [.key pref] [] (ofText (GlobalPolicy.read .text) text)) ∧
      ∀ {step} (kind : Kind), Layer.Leads pref step →
        Differ one other [.key "type_option", .key kind.name, step] valid
          (Document.ofSigns (Text.signs text)).1 →
        Misplaced [.key "type_option", .key kind.name, step] [.key "type_option", .unnamed, step]
          (ofText (GlobalPolicy.read .text) text)) := by
  have declared := refuses.mem_names
  have children : "children" ∉ Layer.fields.map (·.name) := by decide
  have byKind : "type_option" ∉ Layer.fields.map (·.name) := by decide
  -- A layer by kind refuses the value itself, the others what comes of it when it is put aside.
  obtain ⟨cause, data, denies⟩ := refuses.denies denotes
  obtain ⟨again, denoted, refusesAgain⟩ := refuses.aside
  obtain ⟨reason, dataAgain, deniesAside⟩ := refusesAgain.denies denoted
  refine ⟨?_, fun done => ⟨?_, ?_⟩⟩
  · intro overrides place done owner differ
    have foreign : "children" ≠ pref := (ne_of_mem_of_not_mem declared children).symm
    have failed := Overrides.read_fails owner foreign denotes deniesAside differ done
    exact ⟨⟨reason, dataAgain, ofText_error failed⟩, pathText_member owner.ne_nil pref⟩
  · intro differ
    have foreign : "type_option" ≠ pref := (ne_of_mem_of_not_mem declared byKind).symm
    have failed := GlobalPolicy.read_fails_general foreign denotes deniesAside differ done
    exact ⟨⟨reason, dataAgain, ofText_error failed⟩, Layer.pathText_general declared⟩
  · intro step kind leads differ
    have failed := GlobalPolicy.read_fails_byKind denies leads differ done
    exact ⟨⟨cause, data, ofText_error failed⟩, kind.pathText_unnamed step⟩

namespace Sample

open Json.Reader (Reads objectSigns isPlain)

/-- A flag. -/
def flagged : Document := .scalar (some (.bool true))

/-- A number where a flag belongs. -/
def numbered : Document := .scalar (some (.int 5))

/-- A document in objects of one member each. -/
def below (document : Document) : List String → Document
  | [] => document
  | key :: rest => .obj [(some key, below document rest)] .closed

/-- The text of the number in objects, with what follows it. -/
def numberedSigns (behind : List Text.Sign) : List String → List Text.Sign
  | [] => some '5' :: behind
  | key :: rest => objectSigns key.toList (numberedSigns (some '}' :: behind) rest)

theorem reads_numberedSigns {keys : List String} (plain : ∀ key ∈ keys, key.toList.all isPlain)
    (behind : List Text.Sign) :
    Reads (numberedSigns (some '}' :: behind) keys) (below numbered keys) (some '}' :: behind) := by
  induction keys generalizing behind with
  | nil =>
      rw [Reads, numberedSigns, Json.Reader.readDocument]
      exact ⟨Nat.lt_succ_self _, rfl⟩
  | cons key rest ih =>
      obtain ⟨here, later⟩ := List.forall_mem_cons.mp plain
      have reads := (ih later (some '}' :: behind)).object (List.all_eq_true.mp here)
      rwa [String.ofList_toList] at reads

theorem differ_below (keys : List String) :
    Differ flagged numbered (keys.map .key) (below flagged keys) (below numbered keys) := by
  induction keys with
  | nil => exact .here
  | cons key rest ih => exact .member [] key [] .closed ih

theorem numbered_text (text key : String) (keys : List String)
    (spelled : Text.signs text = numberedSigns [] (key :: keys))
    (plain : ∀ name ∈ key :: keys, name.toList.all isPlain)
    (shallow : (below numbered (key :: keys)).limited Document.nestingLimit =
      below numbered (key :: keys)) :
    (Document.ofSigns (Text.signs text)).1 = below numbered (key :: keys) := by
  obtain ⟨here, later⟩ := List.forall_mem_cons.mp plain
  have reads := (reads_numberedSigns later []).object (List.all_eq_true.mp here)
  rw [String.ofList_toList] at reads
  rw [spelled]
  exact (Document.ofSigns_reads reads).trans shallow

theorem numbered_refused : Layer.Refuses "required" (.int 5) :=
  .flag (by decide) rfl

theorem numbered_denotes : numbered.value? = some (.int 5) :=
  rfl

end Sample

theorem sample_refused_preferences_are_misplaced :
    Decoding.Misplaced [.key "manager", .key "children", .key "age", .key "required"]
        [.key "manager", .key "children", .key "age"]
        (Decoding.ofText Overrides.read
          "\x7b\"manager\":\x7b\"children\":\x7b\"age\":\x7b\"required\":5\x7d\x7d\x7d\x7d") ∧
      Decoding.Misplaced [.key "required"] []
        (Decoding.ofText (GlobalPolicy.read .text) "\x7b\"required\":5\x7d") ∧
      Decoding.Misplaced [.key "type_option", .key "date", .key "required"]
        [.key "type_option", .unnamed, .key "required"]
        (Decoding.ofText (GlobalPolicy.read .text)
          "\x7b\"type_option\":\x7b\"date\":\x7b\"required\":5\x7d\x7d\x7d") := by
  refine ⟨?_, ?_, ?_⟩
  · have done : Overrides.read
        (Sample.below Sample.flagged ["manager", "children", "age", "required"]) =
          .ok [("manager", .mk {} [("age", .mk { required := .on } [])])] := rfl
    have read := Sample.numbered_text
      "\x7b\"manager\":\x7b\"children\":\x7b\"age\":\x7b\"required\":5\x7d\x7d\x7d\x7d"
      "manager" ["children", "age", "required"] rfl (by decide) rfl
    exact (refused_preferences_are_misplaced Sample.numbered_refused Sample.numbered_denotes).1 done
      (.child "manager" (.field "age")) (read ▸ Sample.differ_below _)
  · have done : GlobalPolicy.read .text (Sample.below Sample.flagged ["required"]) =
        .ok { layer := { required := .on } } := rfl
    have read := Sample.numbered_text "\x7b\"required\":5\x7d" "required" [] rfl (by decide) rfl
    exact ((refused_preferences_are_misplaced Sample.numbered_refused Sample.numbered_denotes).2
      done).1 (read ▸ Sample.differ_below _)
  · have done : GlobalPolicy.read .text
        (Sample.below Sample.flagged ["type_option", "date", "required"]) =
          .ok { byKind := [(.date, { required := .on })] } := rfl
    have read := Sample.numbered_text
      "\x7b\"type_option\":\x7b\"date\":\x7b\"required\":5\x7d\x7d\x7d"
      "type_option" ["date", "required"] rfl (by decide) rfl
    exact ((refused_preferences_are_misplaced Sample.numbered_refused Sample.numbered_denotes).2
      done).2 .date .key (read ▸ Sample.differ_below _)

/-- The flag of a manager is a number. The text is read with a flag there, but with the number it is
    refused at the manager, in words that do not name the flag. -/
theorem sample_refused_flag_is_not_named :
    Differ Sample.flagged Sample.numbered [.key "manager", .key "required"]
        (Sample.below Sample.flagged ["manager", "required"])
        (Document.ofSigns (Text.signs "\x7b\"manager\":\x7b\"required\":5\x7d\x7d")).1 ∧
      (∃ overrides, Overrides.read (Sample.below Sample.flagged ["manager", "required"]) =
        .ok overrides) ∧
      Decoding.ofText Overrides.read "\x7b\"manager\":\x7b\"required\":5\x7d\x7d" =
        .error ⟨[.key "manager"], .refused "expected a boolean flag, got 5"⟩ ∧
      Decoding.pathText [.key "manager"] = "manager" ∧
      Decoding.pathText [.key "manager", .key "required"] = "manager.required" := by
  have read := Sample.numbered_text "\x7b\"manager\":\x7b\"required\":5\x7d\x7d" "manager"
    ["required"] rfl (by decide) rfl
  refine ⟨?_, ⟨_, rfl⟩, Decoding.ofText_error ?_, rfl, rfl⟩
  · rw [read]
    exact Sample.differ_below ["manager", "required"]
  · rw [read]
    with_unfolding_all rfl

end StoreSchema
