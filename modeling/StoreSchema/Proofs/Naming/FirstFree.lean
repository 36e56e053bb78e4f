import StoreSchema.Proofs.Lists
import StoreSchema.Proofs.Naming.Overlaps
import StoreSchema.Types.Compile

/-! # The first free name

A path is tried with a fixed sequence of names, and gets the first one of them that is free. A
request fails only where the sequence ends before that, which it does without a segment above the
last one and where overlaps are refused. The sequence with numbers has no end, but no more of its
names can be taken than two for each name in the registry.
-/

namespace StoreSchema.Naming

/-! ## The names that are tried -/

/-- The name that stands at a place of the sequence for a path: its candidate, its fallback, and the
    fallback with the numbers from one on behind it. -/
def Strategy.proposal (strategy : Strategy) (path : List String) (place : Nat) : Option String :=
  match path.reverse, place with
  | [], _ => none
  | last :: _, 0 => some (strategy.candidate path last)
  | [_], _ + 1 => none
  | last :: parent :: _, 1 => some (strategy.secondary path parent last)
  | last :: parent :: _, n + 2 =>
    match strategy.overlap with
    | .number => some (numbered (strategy.secondary path parent last) (n + 1))
    | .refuse => none

namespace Registry

/-- Neither a name nor its wire twin is taken. -/
def Free (strategy : Strategy) (registry : Registry) (name : String) : Prop :=
  name ∉ registry ∧ strategy.wireName name ∉ registry

/-- A name is the first free one of the sequence for a path. -/
structure FirstFree (strategy : Strategy) (registry : Registry) (path : List String)
    (place : Nat) (name : String) : Prop where
  proposed : strategy.proposal path place = some name
  free : Free strategy registry name
  earlier : ∀ before < place, ∀ other, strategy.proposal path before = some other →
    ¬ Free strategy registry other

section

variable {strategy : Strategy} {registry : Registry} {path : List String}

theorem FirstFree.unique {place other : Nat} {name otherName : String}
    (one : FirstFree strategy registry path place name)
    (two : FirstFree strategy registry path other otherName) : place = other ∧ name = otherName := by
  obtain less | rfl | more := Nat.lt_trichotomy place other
  · exact absurd one.free (two.earlier place less name one.proposed)
  · exact ⟨rfl, Option.some.inj (one.proposed.symm.trans two.proposed)⟩
  · exact absurd two.free (one.earlier other more otherName two.proposed)

theorem isFree_eq_true {name : String} :
    isFree strategy registry name = true ↔ Free strategy registry name :=
  isFree_iff

/-- The search through the numbers ends at the first one that makes the name free, and it has not
    tried more than two for each taken name before it. -/
theorem firstNumbered_first (strategy : Strategy) (registry : Registry) (base : String) :
    ∃ n ≤ 2 * registry.length,
      firstNumbered strategy registry base = some (numbered base (n + 1)) ∧
        Free strategy registry (numbered base (n + 1)) ∧
          ∀ m < n, ¬ Free strategy registry (numbered base (m + 1)) := by
  obtain ⟨n, bound, found, free, least⟩ := Lists.findSome?_first (numbered base)
    (exists_free_number strategy registry base)
  have attempts : registry.attempts = 2 * registry.length + 1 := rfl
  exact ⟨n, by omega, found, isFree_eq_true.mp free,
    fun m before => mt isFree_eq_true.mpr (least m before)⟩

/-! ## What is chosen -/

/-- What the choice of a name for a path comes to, and why. -/
inductive Chooses (strategy : Strategy) (registry : Registry) (path : List String) :
    Except Error String → Prop where
  | named {place : Nat} {name : String} (first : FirstFree strategy registry path place name)
      (bounded : place ≤ 2 * registry.length + 2) : Chooses strategy registry path (.ok name)
  | empty (none : path = []) : Chooses strategy registry path (.error .emptyPath)
  | root {segment : String} (single : path = [segment])
      (taken : ¬ Free strategy registry (strategy.candidate path segment)) :
      Chooses strategy registry path (.error (.rootCollision (strategy.candidate path segment)))
  | overlap {above : List String} {parent last : String} (long : path = above ++ [parent, last])
      (refuses : strategy.overlap = .refuse)
      (firstTaken : ¬ Free strategy registry (strategy.candidate path last))
      (secondTaken : ¬ Free strategy registry (strategy.secondary path parent last)) :
      Chooses strategy registry path
        (.error (.overlap (strategy.secondary path parent last) path))

theorem choose_chooses (strategy : Strategy) (registry : Registry) (path : List String) :
    Chooses strategy registry path (choose strategy registry path) := by
  unfold choose
  cases reversed : path.reverse with
  | nil => exact .empty (List.reverse_eq_nil_iff.mp reversed)
  | cons last above =>
      have zero : strategy.proposal path 0 = some (strategy.candidate path last) := by
        simp [Strategy.proposal, reversed]
      by_cases first : isFree strategy registry (strategy.candidate path last)
      · simp only [first, if_true]
        refine .named ⟨zero, isFree_eq_true.mp first, ?_⟩ (Nat.zero_le _)
        exact fun before early => absurd early (Nat.not_lt_zero before)
      simp only [first]
      rw [isFree_eq_true] at first
      have whole : path = above.reverse ++ [last] := by
        rw [← List.reverse_cons, ← reversed, List.reverse_reverse]
      cases above with
      | nil => exact .root whole first
      | cons parent rest =>
          have long : path = rest.reverse ++ [parent, last] := by simpa using whole
          have one : strategy.proposal path 1 = some (strategy.secondary path parent last) := by
            simp [Strategy.proposal, reversed]
          by_cases second : isFree strategy registry (strategy.secondary path parent last)
          · simp only [second, if_true]
            refine .named ⟨one, isFree_eq_true.mp second, ?_⟩ (by omega)
            intro before early other proposed
            cases Nat.lt_one_iff.mp early
            cases Option.some.inj (zero.symm.trans proposed)
            exact first
          simp only [second]
          rw [isFree_eq_true] at second
          cases answer : strategy.overlap with
          | refuse => exact .overlap long answer first second
          | number =>
              -- The number `n + 1` stands at the place `n + 2`, behind the two other names.
              obtain ⟨n, small, found, free, least⟩ := firstNumbered_first strategy registry
                (strategy.secondary path parent last)
              have behind : ∀ m, strategy.proposal path (m + 2) =
                  some (numbered (strategy.secondary path parent last) (m + 1)) := by
                intro m
                simp [Strategy.proposal, reversed, answer]
              simp only [found]
              refine .named ⟨behind n, free, ?_⟩ (by omega)
              intro before early other proposed
              match before with
              | 0 =>
                  cases Option.some.inj (zero.symm.trans proposed)
                  exact first
              | 1 =>
                  cases Option.some.inj (one.symm.trans proposed)
                  exact second
              | m + 2 =>
                  cases Option.some.inj ((behind m).symm.trans proposed)
                  exact least m (by omega)

theorem Chooses.no_firstFree {fault : Error} (fails : Chooses strategy registry path (.error fault))
    {place : Nat} {name : String} : ¬ FirstFree strategy registry path place name := by
  rintro ⟨proposed, free, -⟩
  cases fails with
  | empty none =>
      subst none
      simp [Strategy.proposal] at proposed
  | root single taken =>
      subst single
      cases place with
      | zero =>
          cases Option.some.inj proposed
          exact taken free
      | succ n => simp [Strategy.proposal] at proposed
  | overlap long refuses firstTaken secondTaken =>
      have reversed := congrArg List.reverse long
      rw [List.reverse_append, List.reverse_cons, List.reverse_singleton, List.singleton_append,
        List.cons_append, List.singleton_append] at reversed
      unfold Strategy.proposal at proposed
      rw [reversed] at proposed
      match place with
      | 0 =>
          cases Option.some.inj proposed
          exact firstTaken free
      | 1 =>
          cases Option.some.inj proposed
          exact secondTaken free
      | n + 2 => simp [refuses] at proposed

theorem choose_eq_ok_iff {name : String} :
    choose strategy registry path = .ok name ↔
      ∃ place, FirstFree strategy registry path place name := by
  have chooses := choose_chooses strategy registry path
  constructor
  · intro chosen
    rw [chosen] at chooses
    cases chooses with
    | named first _ => exact ⟨_, first⟩
  · rintro ⟨place, first⟩
    cases chosen : choose strategy registry path with
    | error fault =>
        rw [chosen] at chooses
        exact absurd first chooses.no_firstFree
    | ok other =>
        rw [chosen] at chooses
        cases chooses with
        | named otherFirst _ => rw [(otherFirst.unique first).2]

theorem FirstFree.bounded {place : Nat} {name : String}
    (first : FirstFree strategy registry path place name) : place ≤ 2 * registry.length + 2 := by
  have chooses := choose_chooses strategy registry path
  rw [choose_eq_ok_iff.mpr ⟨place, first⟩] at chooses
  cases chooses with
  | named other bounded =>
      rw [(first.unique other).1]
      exact bounded

theorem choose_eq_emptyPath_iff : choose strategy registry path = .error .emptyPath ↔ path = [] := by
  have chooses := choose_chooses strategy registry path
  constructor
  · intro chosen
    rw [chosen] at chooses
    cases chooses with
    | empty none => exact none
  · rintro rfl
    rfl

theorem choose_eq_rootCollision_iff {name : String} :
    choose strategy registry path = .error (.rootCollision name) ↔
      ∃ segment, path = [segment] ∧ name = strategy.candidate path segment ∧
        ¬ Free strategy registry name := by
  have chooses := choose_chooses strategy registry path
  constructor
  · intro chosen
    rw [chosen] at chooses
    cases chooses with
    | root single taken => exact ⟨_, single, rfl, taken⟩
  · rintro ⟨segment, rfl, rfl, taken⟩
    rw [← isFree_eq_true] at taken
    simp [choose, taken]

theorem choose_eq_overlap_iff {name : String} {taken : List String} :
    choose strategy registry path = .error (.overlap name taken) ↔
      taken = path ∧ strategy.overlap = .refuse ∧ ∃ above parent last,
        path = above ++ [parent, last] ∧ name = strategy.secondary path parent last ∧
          ¬ Free strategy registry (strategy.candidate path last) ∧
            ¬ Free strategy registry name := by
  have chooses := choose_chooses strategy registry path
  constructor
  · intro chosen
    rw [chosen] at chooses
    cases chooses with
    | overlap long refuses firstTaken secondTaken =>
        exact ⟨rfl, refuses, _, _, _, long, rfl, firstTaken, secondTaken⟩
  · rintro ⟨rfl, refuses, above, parent, last, rfl, rfl, firstTaken, secondTaken⟩
    rw [← isFree_eq_true] at firstTaken secondTaken
    simp [choose, firstTaken, secondTaken, refuses]

/-! ## What is taken -/

theorem nodup_take {name : String} (distinct : registry.Nodup) : (take name registry).Nodup := by
  unfold take
  split
  next => exact distinct
  next free =>
    rw [List.contains_iff_mem] at free
    exact List.nodup_cons.mpr ⟨free, distinct⟩

theorem length_register {name : String} (free : Free strategy registry name) :
    (register strategy name registry).length =
      registry.length + if strategy.wireName name = name then 1 else 2 := by
  have own : take name registry = name :: registry := if_neg (by simpa using free.1)
  unfold register
  rw [own]
  by_cases same : strategy.wireName name = name
  · rw [if_pos same, take, if_pos (by simp [same]), List.length_cons]
  · rw [if_neg same, take, if_neg (by simpa [same] using free.2), List.length_cons,
      List.length_cons]

end

theorem nodup_takeName {strategy : Strategy} {registry : Registry} (distinct : registry.Nodup)
    (path : List String) : (Compile.takeName strategy path registry).2.Nodup := by
  unfold Compile.takeName
  cases given : registry.generate strategy path with
  | error fault => exact distinct
  | ok named =>
      obtain ⟨name, after⟩ := named
      obtain ⟨-, rfl⟩ := generate_ok given
      exact nodup_take (nodup_take distinct)

/-- The names that are taken after requests for the names of paths, made one after the other from
    the start of a run. -/
def afterRequests (strategy : Strategy) (requests : List (List String)) : Registry :=
  requests.foldl (fun registry path => (Compile.takeName strategy path registry).2) []

theorem nodup_afterRequests (strategy : Strategy) (requests : List (List String)) :
    (afterRequests strategy requests).Nodup := by
  have kept : ∀ registry : Registry, registry.Nodup →
      (requests.foldl (fun registry path => (Compile.takeName strategy path registry).2)
        registry).Nodup := by
    induction requests with
    | nil => exact fun registry distinct => distinct
    | cons path rest ih => exact fun registry distinct => ih _ (nodup_takeName distinct path)
  exact kept [] .nil

/-! ## Answers to requests -/

theorem generate_eq_ok_iff {strategy : Strategy} {registry after : Registry} {path : List String}
    {name : String} :
    registry.generate strategy path = .ok (name, after) ↔
      choose strategy registry path = .ok name ∧ after = registry.register strategy name := by
  unfold generate
  cases choose strategy registry path with
  | error fault => simp
  | ok chosen =>
      constructor
      · rintro ⟨⟩
        exact ⟨rfl, rfl⟩
      · rintro ⟨⟨⟩, rfl⟩
        rfl

theorem generate_eq_error_iff {strategy : Strategy} {registry : Registry} {path : List String}
    {fault : Error} :
    registry.generate strategy path = .error fault ↔
      choose strategy registry path = .error fault := by
  unfold generate
  cases choose strategy registry path with
  | error other => simp
  | ok chosen => simp

/-- What a request for the name of a path comes to. -/
structure Answered (strategy : Strategy) (registry : Registry) (path : List String) : Prop where
  distinct : registry.Nodup
  named : ∀ name, (∃ after, registry.generate strategy path = .ok (name, after)) ↔
    ∃ place, FirstFree strategy registry path place name
  /-- The number behind a name is one less than the place of the name. -/
  bounded : ∀ place name, FirstFree strategy registry path place name →
    place ≤ 2 * registry.length + 2
  empty : registry.generate strategy path = .error .emptyPath ↔ path = []
  root : ∀ name, registry.generate strategy path = .error (.rootCollision name) ↔
    ∃ segment, path = [segment] ∧ name = strategy.candidate path segment ∧
      ¬ Free strategy registry name
  overlap : ∀ name taken, registry.generate strategy path = .error (.overlap name taken) ↔
    taken = path ∧ strategy.overlap = .refuse ∧ ∃ above parent last,
      path = above ++ [parent, last] ∧ name = strategy.secondary path parent last ∧
        ¬ Free strategy registry (strategy.candidate path last) ∧ ¬ Free strategy registry name
  grows : ∀ name after, registry.generate strategy path = .ok (name, after) →
    (Compile.takeName strategy path registry).2 = after ∧
      (∀ other, other ∈ after ↔
        other = strategy.wireName name ∨ other = name ∨ other ∈ registry) ∧
      after.length = registry.length + if strategy.wireName name = name then 1 else 2
  kept : ∀ fault, registry.generate strategy path = .error fault →
    (Compile.takeName strategy path registry).2 = registry

/-- Every request gets the first free name of the sequence for its path, and only the empty path, a
    taken name at the root and a refused overlap get none. The names that are taken then are those
    that were taken before, the new name and its twin. -/
theorem requests_get_first_free (strategy : Strategy) (requests : List (List String))
    (path : List String) : Answered strategy (afterRequests strategy requests) path where
  distinct := nodup_afterRequests strategy requests
  named := by
    intro name
    simp only [generate_eq_ok_iff, exists_and_left, exists_eq, and_true]
    exact choose_eq_ok_iff
  bounded := fun place name first => first.bounded
  empty := generate_eq_error_iff.trans choose_eq_emptyPath_iff
  root := fun name => generate_eq_error_iff.trans choose_eq_rootCollision_iff
  overlap := fun name taken => generate_eq_error_iff.trans choose_eq_overlap_iff
  grows := by
    intro name after given
    obtain ⟨free, rfl⟩ := generate_ok given
    refine ⟨?_, fun other => mem_register, length_register free⟩
    rw [Compile.takeName, given]
  kept := by
    intro fault given
    rw [Compile.takeName, given]

example :
    (generate {} (afterRequests {} [["staff", "chief", "name"], ["staff", "clerk", "name"]])
      ["temps", "clerk", "name"]).map Prod.fst = .ok "ClerkName1" := by
  with_unfolding_all rfl

end Registry

end StoreSchema.Naming
