/-! # Keyed lists

Association lists in two disciplines. `put` keeps the order in which keys first arrived, as the
members of a JSON object do; `insert` keeps the keys in ascending order, as every table of names
in this library does. In both, a key occurs once if it did so before.
-/

namespace StoreSchema.Keyed

/-- Gives `key` the value `value` at the place where the key stands, or at the end. -/
def put [DecidableEq κ] (key : κ) (value : α) : List (κ × α) → List (κ × α)
  | [] => [(key, value)]
  | (k, v) :: rest => if k = key then (k, value) :: rest else (k, v) :: put key value rest

/-- Gives `key` the value `value`, at the place that the ascending order of the keys assigns. -/
def insert [DecidableEq κ] [LT κ] [DecidableLT κ] (key : κ) (value : α) :
    List (κ × α) → List (κ × α)
  | [] => [(key, value)]
  | (k, v) :: rest =>
    if k = key then (key, value) :: rest
    else if key < k then (key, value) :: (k, v) :: rest
    else (k, v) :: insert key value rest

/-- Adds an element to an ascending list without repetitions. -/
def add [DecidableEq κ] [LT κ] [DecidableLT κ] (key : κ) : List κ → List κ
  | [] => [key]
  | k :: rest =>
    if k = key then k :: rest else if key < k then key :: k :: rest else k :: add key rest

/-- The ascending list of the elements of a list, each once. -/
def sorted [DecidableEq κ] [LT κ] [DecidableLT κ] (keys : List κ) : List κ :=
  keys.foldr add []

theorem sizeOf_lt_of_lookup [BEq κ] [SizeOf κ] [SizeOf α] {key : κ} {value : α} :
    {entries : List (κ × α)} → entries.lookup key = some value → sizeOf value < sizeOf entries
  | [], found => by simp at found
  | (k, v) :: rest, found => by
    rw [List.lookup_cons] at found
    split at found
    · simp only [Option.some.injEq] at found
      subst found
      simp only [List.cons.sizeOf_spec, Prod.mk.sizeOf_spec]
      omega
    · have smaller := sizeOf_lt_of_lookup found
      simp only [List.cons.sizeOf_spec]
      omega

end StoreSchema.Keyed
