import StoreSchema.Proofs.Types.Forests
import StoreSchema.Proofs.Wire.Rendering

/-! # Required values that are missing

Where a required record is missing, the plain document has one that is rendered from nothing, and
so on through its own required members. That comes to an end: what a member refers to stands behind
the definition that declares the member.
-/

namespace StoreSchema

namespace Forest

variable {forest : Forest} {config : Config} {root : String} {properties : Properties}

/-! ## Children behind their parents -/

theorem path_ne_nil (compiled : Forest.ofProperties config root properties = .ok forest)
    {definition : Definition} (inside : definition ∈ forest.types) : definition.path ≠ [] := by
  obtain ⟨site, -, describes⟩ := Lists.exists_left (walked compiled) inside
  rw [describes.path]
  simp

theorem root_path (compiled : Forest.ofProperties config root properties = .ok forest)
    {definition : Definition} (first : forest.types[0]? = some definition) :
    definition.path = [root] := by
  obtain ⟨fields, -, top⟩ := compiled_top compiled
  rw [top] at first
  cases Option.some.inj first
  rfl

theorem element_of_child {member : Member} {type : String} (child : member.child? = some type) :
    ∃ wire, member.element = .compound type wire := by
  unfold Member.child? at child
  split at child
  next plain wire element =>
    cases child
    exact ⟨wire, element⟩
  next => cases child

theorem child_later (ordered : properties.Ordered)
    (compiled : Forest.ofProperties config root properties = .ok forest) {index : Nat}
    {parent : Definition} {member : Member} {type : String}
    (stands : forest.types[index]? = some parent) (declared : member ∈ parent.members)
    (child : member.child? = some type) :
    ∃ later definition, index < later ∧ forest.types[later]? = some definition ∧
      definition.name = type ∧ definition.isPair := by
  have inside := List.mem_of_getElem? stands
  obtain ⟨wire, element⟩ := element_of_child child
  obtain ⟨definition, present, serves⟩ :=
    linked compiled parent inside member declared (by rw [element]; rfl)
  have named : definition.name = type := by
    have refers := serves.refers
    rw [Element.RefersTo, element] at refers
    exact (congrArg Prod.fst (Option.some.inj refers)).symm
  have pair : definition.isPair := by
    rw [serves.pair, element]
    rfl
  obtain ⟨later, found⟩ := List.mem_iff_getElem?.mp present
  have behindRoot : 0 < later := by
    refine Nat.pos_of_ne_zero ?_
    intro first
    subst first
    have short := (root_path compiled found).symm.trans serves.path
    have nonempty := path_ne_nil compiled inside
    cases path : parent.path with
    | nil => exact nonempty path
    | cons head tail => simp [path] at short
  obtain ⟨place, declaredAt⟩ := List.mem_iff_getElem?.mp declared
  obtain ⟨position, owner, other, before, -, -, only⟩ :=
    referredOnce ordered compiled found behindRoot
  have here : (index, place) = position := by
    refine only (index, place) parent member ⟨stands, declaredAt⟩ ?_
    rw [element, named]
    rfl
  subst here
  exact ⟨later, definition, before, found, named, pair⟩

/-- What holds of a type if it holds of the types of its members' records holds of every type of
    records, for those of the members stand behind it. -/
theorem children_first (ordered : properties.Ordered)
    (compiled : Forest.ofProperties config root properties = .ok forest) {holds : String → Prop}
    (step : ∀ definition ∈ forest.types, definition.isPair →
      (∀ member ∈ definition.members, ∀ type, member.child? = some type → holds type) →
        holds definition.name)
    {definition : Definition} (inside : definition ∈ forest.types) (pair : definition.isPair) :
    holds definition.name := by
  obtain ⟨index, stands⟩ := List.mem_iff_getElem?.mp inside
  induction left : forest.types.length - index using Nat.strong_induction_on
    generalizing index definition with
  | h left ih =>
      subst left
      refine step definition inside pair fun member declared type child => ?_
      obtain ⟨later, target, behind, targetAt, rfl, targetPair⟩ :=
        child_later ordered compiled stands declared child
      have bound := (List.getElem?_eq_some_iff.mp targetAt).1
      exact ih _ (by omega) (List.mem_of_getElem? targetAt) targetPair later targetAt rfl

/-! ## Empty records -/

theorem zeroRecord_append {before later : List Definition} {type : String}
    (absent : ∀ definition ∈ before, definition.name ≠ type) :
    zeroRecord (before ++ later) type = zeroRecord later type := by
  induction before with
  | nil => rfl
  | cons definition rest ih =>
      obtain ⟨different, restAbsent⟩ := List.forall_mem_cons.mp absent
      rw [List.cons_append, zeroRecord, if_neg different]
      exact ih restAbsent

theorem plainForm_total (form : Form) (zero : Json) (slot : Slot Json) :
    ∃ plain, plainForm form (.ok zero) slot = .ok plain := by
  cases form with
  | value =>
      unfold plainForm
      cases slot.first? with
      | some value => exact ⟨value, rfl⟩
      | none => exact ⟨zero, rfl⟩
  | list | optionalValue | optionalList => exact ⟨_, rfl⟩

/-- An empty record of a type becomes the same document in two ways: by the definitions from its
    own on, and as a record that is rendered. -/
structure Zeroed (forest : Forest) (later : List Definition) (type : String)
    (entries : List (String × Json)) : Prop where
  zero : zeroRecord later type = .ok (.obj entries)
  rendered : forest.toPlain type [] = .ok (.obj entries)

theorem openMap_zeroed {definition : Definition} (later : List Definition)
    (found : forest.find? definition.name = some definition)
    (body : definition.body = .openMap) :
    forest.Zeroed (definition :: later) definition.name [] := by
  constructor
  · simp only [zeroRecord, if_true, body]
  · rw [toPlain, render, definition_ok found]
    simp only [body, renderEntries]
    rfl

theorem members_zeroed {later : List Definition} {members : List Member}
    (each : ∀ member ∈ members, ∃ zero,
      zeroOf ⟨forest.root, later⟩ member.element = .ok zero ∧
        forest.zeroOf member.element = .ok zero) :
    ∃ entries,
      (members.mapM fun member => do
        let value ← plainForm member.form (zeroOf ⟨forest.root, later⟩ member.element) .undefined
        pure (member.name, value)) = .ok entries ∧
      renderMembers forest forest.plain [] members = .ok entries := by
  induction members with
  | nil => exact ⟨[], rfl, by rw [renderMembers]⟩
  | cons member rest ih =>
      obtain ⟨⟨zero, near, far⟩, restEach⟩ := List.forall_mem_cons.mp each
      obtain ⟨entries, zeros, rendered⟩ := ih restEach
      obtain ⟨plain, formed⟩ := plainForm_total member.form zero .undefined
      refine ⟨(member.name, plain) :: entries, ?_, ?_⟩
      · rw [List.mapM_cons, zeros, near, formed]
        rfl
      · rw [renderMembers_cons, renderMember, List.lookup_nil, Option.getD_none, renderSlot,
          rendered]
        simp only [Outcome.ok_bind, Forest.plain, far, formed]
        rfl

theorem record_zeroed {definition : Definition} {members : List Member}
    {later : List Definition} (found : forest.find? definition.name = some definition)
    (body : definition.body = .record members)
    (each : ∀ member ∈ members, ∃ zero,
      zeroOf ⟨forest.root, later⟩ member.element = .ok zero ∧
        forest.zeroOf member.element = .ok zero) :
    ∃ entries, forest.Zeroed (definition :: later) definition.name entries := by
  obtain ⟨entries, zeros, rendered⟩ := members_zeroed each
  refine ⟨entries, ?_, ?_⟩
  · have unfolded : zeroRecord (definition :: later) definition.name = (do
        let plain ← members.mapM fun member => do
          let value ← plainForm member.form (zeroOf ⟨forest.root, later⟩ member.element) .undefined
          pure (member.name, value)
        pure (.obj plain)) := by
      simp only [zeroRecord, if_true, body]
      rfl
    rw [unfolded, zeros]
    rfl
  · rw [toPlain, render, definition_ok found]
    simp only [body, rendered]
    rfl

/-- The records of a type are empty by the definitions from the one of the type on, wherever the
    list of definitions is cut before it. -/
theorem zeroed (ordered : properties.Ordered)
    (compiled : Forest.ofProperties config root properties = .ok forest)
    (before later : List Definition) (types : before ++ later = forest.types)
    {definition : Definition} (inside : definition ∈ later) (pair : definition.isPair) :
    ∃ entries, forest.Zeroed later definition.name entries := by
  obtain ⟨after, issued⟩ := types_issued compiled
  induction later generalizing before definition with
  | nil => simp at inside
  | cons first rest ih =>
      have cut : (before ++ [first]) ++ rest = forest.types := by simp [← types]
      have apart : ((before ++ [first]) ++ rest).Pairwise Definition.Apart := cut ▸ issued.apart
      have across := (List.pairwise_append.mp apart).2.2
      cases List.mem_cons.mp inside with
      | inr deeper =>
          obtain ⟨entries, below⟩ := ih (before ++ [first]) cut deeper pair
          have different := (across first (by simp) definition deeper).name
          exact ⟨entries, by rw [zeroRecord, if_neg different]; exact below.zero, below.rendered⟩
      | inl same =>
          subst same
          have present : definition ∈ forest.types := by simp [← types]
          have found := find?_eq_some compiled present
          cases body : definition.body with
          | openMap => exact ⟨[], openMap_zeroed rest found body⟩
          | date _ | aggregate _ => simp [Definition.isPair, body] at pair
          | record members =>
              refine record_zeroed found body ?_
              intro member declared
              cases element : member.element with
              | scalar _ zero | leaf _ zero => exact ⟨zero, rfl, rfl⟩
              | compound type wire =>
                  have stands : forest.types[before.length]? = some definition := by simp [← types]
                  have child : member.child? = some type := by rw [Member.child?, element]
                  obtain ⟨index, target, behind, targetAt, named, targetPair⟩ :=
                    child_later ordered compiled stands
                      (Definition.members_of_record body ▸ declared) child
                  -- What stands behind the definition is in the rest of the list.
                  have targetInside : target ∈ rest := by
                    rw [← cut, List.getElem?_append_right (by simp; omega)] at targetAt
                    exact List.mem_of_getElem? targetAt
                  obtain ⟨entries, below⟩ := ih (before ++ [definition]) cut targetInside targetPair
                  subst named
                  refine ⟨.obj entries, below.zero, ?_⟩
                  have whole : zeroRecord forest.types target.name = zeroRecord rest target.name := by
                    rw [← cut]
                    exact zeroRecord_append fun other early =>
                      (across other early target targetInside).name
                  rw [zeroOf, whole]
                  exact below.zero

/-- Where a required record is missing, there is a plain document that stands for it: the one that
    an empty record is rendered as. -/
structure ChildrenFollow (forest : Forest) : Prop where
  later : ∀ (index : Nat) (parent : Definition), forest.types[index]? = some parent →
    ∀ member ∈ parent.members, ∀ type, member.child? = some type →
      ∃ (behind : Nat) (child : Definition), index < behind ∧
        forest.types[behind]? = some child ∧ child.name = type ∧ child.isPair
  zero : ∀ parent ∈ forest.types, ∀ member ∈ parent.members, ∀ type, member.child? = some type →
    ∃ entries, forest.zeroOf member.element = .ok (.obj entries) ∧
      forest.toPlain type [] = .ok (.obj entries)

theorem children_follow (ordered : properties.Ordered)
    (compiled : Forest.ofProperties config root properties = .ok forest) :
    forest.ChildrenFollow := by
  constructor
  · intro index parent stands member declared type child
    exact child_later ordered compiled stands declared child
  · intro parent inside member declared type child
    obtain ⟨index, stands⟩ := List.mem_iff_getElem?.mp inside
    obtain ⟨behind, target, -, targetAt, named, pair⟩ :=
      child_later ordered compiled stands declared child
    obtain ⟨entries, zero⟩ :=
      zeroed ordered compiled [] forest.types rfl (List.mem_of_getElem? targetAt) pair
    obtain ⟨wire, element⟩ := element_of_child child
    rw [element, ← named]
    exact ⟨entries, zero.zero, zero.rendered⟩

end Forest

end StoreSchema
