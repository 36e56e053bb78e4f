import Mathlib.Data.String.Basic
import Mathlib.Data.List.Forall2
import StoreSchema.Keyed

/-! # Keyed lists, read by key

A keyed list in ascending order is determined by what a look-up finds in it. Insertion keeps the
order and changes what is found under one key only.
-/

namespace StoreSchema.Keyed

variable {α β : Type}

/-- The keys stand in strictly ascending order, so that each occurs once. -/
def Ascending (entries : List (String × α)) : Prop :=
  (entries.map Prod.fst).Pairwise (· < ·)

instance (entries : List (String × α)) : Decidable (Ascending entries) :=
  inferInstanceAs (Decidable ((entries.map Prod.fst).Pairwise (· < ·)))

/-- The keyed list that takes the entries of a list one after the other. -/
def table (entries : List (String × α)) : List (String × α) :=
  entries.foldl (fun before (key, value) => insert key value before) []

/-! ## Look-up -/

theorem lookup_cons_of_ne {key name : String} (different : key ≠ name) (value : α)
    (rest : List (String × α)) : ((name, value) :: rest).lookup key = rest.lookup key := by
  rw [List.lookup_cons]
  simp only [beq_eq_false_iff_ne.mpr different]

theorem lookup_eq_none_of_not_mem {entries : List (String × α)} {key : String}
    (absent : key ∉ entries.map Prod.fst) : entries.lookup key = none := by
  rw [List.lookup_eq_none_iff]
  intro entry member
  exact bne_iff_ne.mpr (fun same => absent (same ▸ List.mem_map_of_mem member))

theorem mem_of_lookup {entries : List (String × α)} {key : String} {value : α}
    (found : entries.lookup key = some value) : (key, value) ∈ entries := by
  obtain ⟨before, after, rfl, -⟩ := List.lookup_eq_some_iff.mp found
  exact List.mem_append_right before List.mem_cons_self

theorem mem_keys_of_lookup {entries : List (String × α)} {key : String} {value : α}
    (found : entries.lookup key = some value) : key ∈ entries.map Prod.fst :=
  List.mem_map_of_mem (mem_of_lookup found)

theorem exists_lookup {entries : List (String × α)} {key : String}
    (member : key ∈ entries.map Prod.fst) : ∃ value, entries.lookup key = some value := by
  cases found : entries.lookup key with
  | some value => exact ⟨value, rfl⟩
  | none =>
      obtain ⟨entry, inside, same⟩ := List.mem_map.mp member
      have different := List.lookup_eq_none_iff.mp found entry inside
      exact absurd same.symm (bne_iff_ne.mp different)

theorem lookup_of_mem {entries : List (String × α)} {key : String} {value : α}
    (once : (entries.map Prod.fst).Nodup) (member : (key, value) ∈ entries) :
    entries.lookup key = some value := by
  induction entries with
  | nil => simp at member
  | cons entry rest ih =>
      obtain ⟨name, first⟩ := entry
      obtain ⟨absent, restOnce⟩ := List.nodup_cons.mp once
      cases List.mem_cons.mp member with
      | inl same =>
          cases same
          exact List.lookup_cons_self
      | inr later =>
          have inside : key ∈ rest.map Prod.fst := List.mem_map_of_mem later
          have different : key ≠ name := fun same => absent (same ▸ inside)
          rw [lookup_cons_of_ne different]
          exact ih restOnce later

theorem map_lookup {entries : List (String × α)} (once : (entries.map Prod.fst).Nodup)
    (default : α) :
    ((entries.map Prod.fst).map fun key => (key, (entries.lookup key).getD default)) = entries := by
  rw [List.map_map]
  refine (List.map_congr_left fun entry inside => ?_).trans (List.map_id entries)
  simp [lookup_of_mem once inside]

theorem lookup_map_value {κ : Type} [BEq κ] (f : α → β) (entries : List (κ × α)) (key : κ) :
    (entries.map fun entry => (entry.1, f entry.2)).lookup key = (entries.lookup key).map f := by
  induction entries with
  | nil => rfl
  | cons entry rest ih =>
      rw [List.map_cons, List.lookup_cons, List.lookup_cons, ih]
      cases key == entry.1 <;> rfl

theorem lookup_filter (keep : String → Bool) (entries : List (String × α)) (key : String) :
    (entries.filter fun entry => keep entry.1).lookup key =
      if keep key then entries.lookup key else none := by
  induction entries with
  | nil => simp
  | cons entry rest ih =>
      obtain ⟨name, value⟩ := entry
      by_cases same : key = name
      · subst same
        cases kept : keep key <;> simp [kept, ih]
      · cases kept : keep name <;> simp [kept, ih, lookup_cons_of_ne same]

/-! ## Insertion -/

theorem lookup_insert (key name : String) (value : α) (entries : List (String × α)) :
    (insert key value entries).lookup name =
      if name = key then some value else entries.lookup name := by
  induction entries with
  | nil => by_cases same : name = key <;> simp [insert, same]
  | cons entry rest ih =>
      obtain ⟨other, first⟩ := entry
      unfold insert
      split
      next equal =>
        subst equal
        by_cases same : name = other
        · simp [same]
        · simp [lookup_cons_of_ne same, same]
      next unequal =>
        split
        · by_cases same : name = key
          · simp [same]
          · simp [lookup_cons_of_ne same, same]
        · by_cases same : name = other
          · subst same
            simp [unequal]
          · simp [lookup_cons_of_ne same, ih]

theorem mem_of_mem_put {key : String} {value : α} {entries : List (String × α)}
    {entry : String × α} (member : entry ∈ put key value entries) :
    entry = (key, value) ∨ entry ∈ entries := by
  induction entries with
  | nil => exact .inl (List.mem_singleton.mp member)
  | cons first rest ih =>
      unfold put at member
      split at member
      next same => exact (List.mem_cons.mp member).imp (same ▸ ·) (List.mem_cons_of_mem first)
      next =>
        cases List.mem_cons.mp member with
        | inl same => exact .inr (same ▸ List.mem_cons_self)
        | inr later => exact (ih later).imp_right (List.mem_cons_of_mem first)

theorem mem_keys_insert {key name : String} {value : α} {entries : List (String × α)} :
    name ∈ (insert key value entries).map Prod.fst ↔
      name = key ∨ name ∈ entries.map Prod.fst := by
  induction entries with
  | nil => simp [insert]
  | cons entry rest ih =>
      obtain ⟨other, first⟩ := entry
      unfold insert
      split
      next equal => simp [equal]
      next unequal =>
        split
        · simp
        · simp only [List.map_cons, List.mem_cons, ih]
          tauto

theorem mem_of_mem_insert {key : String} {value : α} {entries : List (String × α)}
    {entry : String × α} (member : entry ∈ insert key value entries) :
    entry = (key, value) ∨ entry ∈ entries := by
  induction entries with
  | nil => exact .inl (List.mem_singleton.mp member)
  | cons first rest ih =>
      unfold insert at member
      split at member
      next => exact (List.mem_cons.mp member).imp_right (List.mem_cons_of_mem first)
      next =>
        split at member
        next => exact List.mem_cons.mp member
        next =>
          cases List.mem_cons.mp member with
          | inl same => exact .inr (same ▸ List.mem_cons_self)
          | inr later => exact (ih later).imp_right (List.mem_cons_of_mem first)

theorem Ascending.nil : Ascending ([] : List (String × α)) :=
  List.Pairwise.nil

theorem Ascending.tail {entry : String × α} {rest : List (String × α)}
    (ascending : Ascending (entry :: rest)) : Ascending rest :=
  List.Pairwise.of_cons ascending

theorem Ascending.head_lt {entry : String × α} {rest : List (String × α)}
    (ascending : Ascending (entry :: rest)) : ∀ key ∈ rest.map Prod.fst, entry.1 < key :=
  (List.pairwise_cons.mp ascending).1

theorem Ascending.nodup {entries : List (String × α)} (ascending : Ascending entries) :
    (entries.map Prod.fst).Nodup :=
  List.Pairwise.imp (fun less => ne_of_lt less) ascending

theorem Ascending.insert {entries : List (String × α)} (ascending : Ascending entries)
    (key : String) (value : α) : Ascending (insert key value entries) := by
  induction entries with
  | nil => simp [Keyed.insert, Ascending]
  | cons entry rest ih =>
      obtain ⟨other, first⟩ := entry
      unfold Keyed.insert
      split
      next equal =>
        subst equal
        exact ascending
      next unequal =>
        split
        next less =>
          refine List.pairwise_cons.mpr ⟨fun name member => ?_, ascending⟩
          cases List.mem_cons.mp member with
          | inl same => exact same ▸ less
          | inr later => exact lt_trans less (ascending.head_lt name later)
        next notLess =>
          refine List.pairwise_cons.mpr ⟨fun name member => ?_, ih ascending.tail⟩
          cases mem_keys_insert.mp member with
          | inl same => exact same ▸ lt_of_le_of_ne (not_lt.mp notLess) unequal
          | inr later => exact ascending.head_lt name later

section

variable {κ : Type} [DecidableEq κ] [LT κ] [DecidableLT κ] [Std.Asymm (α := κ) (· < ·)]

theorem insert_of_above {entries : List (κ × α)} {key : κ} (value : α)
    (above : ∀ name ∈ entries.map Prod.fst, name < key) :
    insert key value entries = entries ++ [(key, value)] := by
  induction entries with
  | nil => rfl
  | cons entry rest ih =>
      obtain ⟨other, first⟩ := entry
      have less : other < key := above other List.mem_cons_self
      have notLess : ¬ key < other := Std.Asymm.asymm other key less
      have different : other ≠ key := fun same => notLess (same ▸ less)
      have later := ih (fun name member => above name (List.mem_cons_of_mem _ member))
      rw [insert, if_neg different, if_neg notLess, later]
      rfl

theorem foldl_insert {before entries : List (κ × α)}
    (ascending : ((before ++ entries).map Prod.fst).Pairwise (· < ·)) :
    entries.foldl (fun before (key, value) => insert key value before) before =
      before ++ entries := by
  induction entries generalizing before with
  | nil => simp
  | cons entry rest ih =>
      obtain ⟨key, value⟩ := entry
      have above : ∀ name ∈ before.map Prod.fst, name < key := by
        intro name member
        rw [List.map_append, List.pairwise_append] at ascending
        exact ascending.2.2 name member key List.mem_cons_self
      have appended : before ++ (key, value) :: rest = (before ++ [(key, value)]) ++ rest := by simp
      calc
        _ = rest.foldl (fun before (key, value) => insert key value before)
              (before ++ [(key, value)]) := by
            rw [List.foldl_cons, ← insert_of_above value above]
        _ = before ++ (key, value) :: rest := by
            rw [ih (appended ▸ ascending), appended]

end

theorem insert_perm {key : String} (value : α) {entries : List (String × α)}
    (absent : key ∉ entries.map Prod.fst) :
    (insert key value entries).Perm ((key, value) :: entries) := by
  induction entries with
  | nil => exact .refl _
  | cons entry rest ih =>
      obtain ⟨other, first⟩ := entry
      have different : other ≠ key := (List.ne_of_not_mem_cons absent).symm
      have later := ih (List.not_mem_of_not_mem_cons absent)
      unfold insert
      rw [if_neg different]
      split
      next => exact .refl _
      next => exact (later.cons (other, first)).trans (.swap _ _ rest)

theorem insert_comm {key other : String} (different : key ≠ other) (value otherValue : α)
    (entries : List (String × α)) :
    insert key value (insert other otherValue entries) =
      insert other otherValue (insert key value entries) := by
  induction entries with
  | nil => grind [insert]
  | cons entry rest ih => grind [insert]

/-! ## Tables -/

theorem table_of_ascending {entries : List (String × α)} (ascending : Ascending entries) :
    table entries = entries := by
  have onward : Ascending ([] ++ entries) := ascending
  exact foldl_insert onward

private theorem foldl_ascending {before : List (String × α)} (ascending : Ascending before)
    (entries : List (String × α)) :
    Ascending (entries.foldl (fun before (key, value) => insert key value before) before) := by
  induction entries generalizing before with
  | nil => exact ascending
  | cons entry rest ih => exact ih (ascending.insert entry.1 entry.2)

theorem table_ascending (entries : List (String × α)) : Ascending (table entries) :=
  foldl_ascending Ascending.nil entries

private theorem lookup_foldl {entries : List (String × α)} (once : (entries.map Prod.fst).Nodup)
    (before : List (String × α)) (key : String) :
    (entries.foldl (fun before (key, value) => insert key value before) before).lookup key =
      (entries.lookup key).or (before.lookup key) := by
  induction entries generalizing before with
  | nil => rfl
  | cons entry rest ih =>
      obtain ⟨name, value⟩ := entry
      obtain ⟨absent, restOnce⟩ := List.nodup_cons.mp once
      rw [List.foldl_cons, ih restOnce, lookup_insert]
      by_cases same : key = name
      · subst same
        simp [lookup_eq_none_of_not_mem absent]
      · simp [lookup_cons_of_ne same, same]

theorem lookup_table {entries : List (String × α)} (once : (entries.map Prod.fst).Nodup)
    (key : String) : (table entries).lookup key = entries.lookup key := by
  rw [table, lookup_foldl once]
  simp

theorem map_insert (f : α → β) (key : String) (value : α) (entries : List (String × α)) :
    (insert key value entries).map (fun entry => (entry.1, f entry.2)) =
      insert key (f value) (entries.map fun entry => (entry.1, f entry.2)) := by
  induction entries with
  | nil => rfl
  | cons entry rest ih =>
      obtain ⟨other, first⟩ := entry
      simp only [insert, List.map_cons]
      split
      next => rfl
      next =>
        split
        · rfl
        · rw [List.map_cons, ih]

theorem map_table (f : α → β) (entries : List (String × α)) :
    (table entries).map (fun entry => (entry.1, f entry.2)) =
      table (entries.map fun entry => (entry.1, f entry.2)) := by
  rw [table, table, List.foldl_map]
  exact (List.foldl_hom (List.map fun entry : String × α => (entry.1, f entry.2))
    fun before entry => (map_insert f entry.1 entry.2 before).symm).symm

/-! ## Lists of keys -/

theorem mem_add {key other : String} {keys : List String} :
    other ∈ add key keys ↔ other = key ∨ other ∈ keys := by
  induction keys with
  | nil => simp [add]
  | cons first rest ih =>
      unfold add
      split
      next equal => simp [equal]
      next =>
        split
        · simp
        · simp only [List.mem_cons, ih]
          tauto

theorem mem_sorted {key : String} {keys : List String} : key ∈ sorted keys ↔ key ∈ keys := by
  induction keys with
  | nil => simp [sorted]
  | cons first rest ih =>
      rw [sorted, List.foldr_cons, mem_add, ← sorted, ih, List.mem_cons]

/-! ## Extensionality -/

theorem Ascending.ext {left right : List (String × α)} (leftAscending : Ascending left)
    (rightAscending : Ascending right) (same : ∀ key, left.lookup key = right.lookup key) :
    left = right := by
  induction left generalizing right with
  | nil =>
      cases right with
      | nil => rfl
      | cons other later =>
          obtain ⟨name, first⟩ := other
          have found := same name
          simp at found
  | cons entry rest ih =>
      obtain ⟨key, value⟩ := entry
      cases right with
      | nil =>
          have found := same key
          simp at found
      | cons other later =>
          obtain ⟨name, first⟩ := other
          have keys : key = name := by
            by_contra different
            -- the smaller of the two first keys is not in the other list
            rcases lt_or_gt_of_ne different with less | greater
            · have absent : ((name, first) :: later).lookup key = none :=
                lookup_eq_none_of_not_mem fun member => by
                  cases List.mem_cons.mp member with
                  | inl equal => exact different equal
                  | inr inside => exact lt_asymm less (rightAscending.head_lt key inside)
              rw [← same key, List.lookup_cons_self] at absent
              contradiction
            · have absent : ((key, value) :: rest).lookup name = none :=
                lookup_eq_none_of_not_mem fun member => by
                  cases List.mem_cons.mp member with
                  | inl equal => exact different equal.symm
                  | inr inside => exact lt_asymm greater (leftAscending.head_lt name inside)
              rw [same name, List.lookup_cons_self] at absent
              contradiction
          subst keys
          have values : value = first := by simpa using same key
          subst values
          have rests : rest = later := by
            refine ih leftAscending.tail rightAscending.tail fun probe => ?_
            by_cases equal : probe = key
            · subst equal
              rw [lookup_eq_none_of_not_mem
                  (fun member => lt_irrefl _ (leftAscending.head_lt _ member)),
                lookup_eq_none_of_not_mem
                  (fun member => lt_irrefl _ (rightAscending.head_lt _ member))]
            · have tails := same probe
              rwa [lookup_cons_of_ne equal, lookup_cons_of_ne equal] at tails
          rw [rests]

end StoreSchema.Keyed
