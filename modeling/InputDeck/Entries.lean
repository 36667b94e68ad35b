import InputDeck.Text.Basic

/-!
# Entries under distinct keys

Outputs of a model, variables of a sweep, bindings of a study and files of a directory are keys
with something that each stands for. A key is there at most once, and every row of entries
carries the proof of it. A new key goes behind all others and a key that is put in again keeps
its place, so the order is that in which the keys first appeared.
-/

namespace InputDeck

/-- Distinct keys with what each stands for, in the order in which the keys first appeared. -/
structure Entries (κ α : Type) where
  pairs : List (κ × α)
  distinct : (pairs.map (·.1)).Nodup
deriving DecidableEq

namespace Entries

variable {κ α : Type} [DecidableEq κ]

/-- No entries. -/
def empty : Entries κ α := ⟨[], List.nodup_nil⟩

/-- The keys in their order. -/
def keys (entries : Entries κ α) : List κ := entries.pairs.map (·.1)

/-- What a key stands for. -/
def find? (entries : Entries κ α) (key : κ) : Option α := entries.pairs.lookup key

/-- Puts a pair in the place of the first one with its key, or behind all others. -/
def put (key : κ) (a : α) : List (κ × α) → List (κ × α)
  | [] => [(key, a)]
  | (other, b) :: rest =>
    if other = key then (key, a) :: rest else (other, b) :: put key a rest

/-- A key that is there keeps its place, and any other comes last. -/
theorem keys_put (key : κ) (a : α) (pairs : List (κ × α)) :
    (put key a pairs).map (·.1)
      = if key ∈ pairs.map (·.1) then pairs.map (·.1) else pairs.map (·.1) ++ [key] := by
  induction pairs with
  | nil => simp [put]
  | cons pair rest ih =>
    obtain ⟨other, b⟩ := pair
    by_cases same : other = key
    · simp [put, same]
    · have different : key ≠ other := fun equal => same equal.symm
      simp only [put, same, if_false, List.map_cons, ih, List.mem_cons, different, false_or]
      split <;> simp

/-- Putting a pair in leaves keys distinct that were distinct. -/
theorem distinct_put (key : κ) (a : α) (pairs : List (κ × α))
    (distinct : (pairs.map (·.1)).Nodup) : ((put key a pairs).map (·.1)).Nodup := by
  rw [keys_put]
  split
  · exact distinct
  · next absent =>
    refine List.nodup_append.mpr ⟨distinct, by simp, ?_⟩
    intro other present new isKey equal
    rw [List.mem_singleton] at isKey
    exact absent (isKey ▸ equal ▸ present)

/-- The entries with one more: a key that is there keeps its place and stands for the new thing,
and any other key comes last. -/
def insert (entries : Entries κ α) (key : κ) (a : α) : Entries κ α :=
  ⟨put key a entries.pairs, distinct_put key a entries.pairs entries.distinct⟩

/-- The entries without the one with a key. -/
def erase (entries : Entries κ α) (key : κ) : Entries κ α :=
  ⟨entries.pairs.filter (·.1 != key),
    entries.distinct.sublist (List.filter_sublist.map _)⟩

/-- The entries of a row of pairs, put in one after another. -/
def ofList (pairs : List (κ × α)) : Entries κ α :=
  pairs.foldl (fun entries (key, a) => entries.insert key a) empty

end Entries

end InputDeck
