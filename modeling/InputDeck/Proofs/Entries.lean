import Mathlib.Data.List.Induction
import InputDeck.Entries

/-!
# What a key stands for

A key stands for what was put in under it last, and what is put in under another key does not
change that. The keys stand in the order in which they were first put in.
-/

namespace InputDeck.Entries

variable {κ α β : Type} [DecidableEq κ]

/-- The first pair with a key is the one that is found. -/
theorem lookup_pair (key first : κ) (b : α) (rest : List (κ × α)) :
    List.lookup key ((first, b) :: rest) = if key = first then some b else rest.lookup key := by
  by_cases same : key = first
  · simp [same]
  · simp [List.lookup_cons, same, beq_false_of_ne same]

/-- Where pairs are made of items, a key is found with the first item that has it. -/
theorem lookup_map (keyOf : β → κ) (valueOf : β → α) (items : List β) (key : κ) :
    (items.map fun item => (keyOf item, valueOf item)).lookup key =
      (items.find? fun item => decide (keyOf item = key)).map valueOf := by
  induction items with
  | nil => rfl
  | cons item rest inductionHypothesis =>
    rw [List.map_cons, lookup_pair, List.find?_cons, inductionHypothesis]
    by_cases same : keyOf item = key
    · simp [same]
    · simp [same, Ne.symm same]

/-- A key that was put in stands for the new thing, and any other for what it stood for. -/
theorem lookup_put (key other : κ) (a : α) (pairs : List (κ × α)) :
    (put key a pairs).lookup other = if other = key then some a else pairs.lookup other := by
  induction pairs with
  | nil => simp [put, lookup_pair]
  | cons pair rest inductionHypothesis =>
    obtain ⟨first, b⟩ := pair
    by_cases found : first = key
    · rw [put, if_pos found, lookup_pair, lookup_pair, found]
      split <;> rfl
    · rw [put, if_neg found, lookup_pair, lookup_pair, inductionHypothesis]
      by_cases same : other = first
      · have different : other ≠ key := same ▸ found
        rw [if_pos same, if_neg different, if_pos same]
      · rw [if_neg same, if_neg same]

/-- A key that was put in stands for the new thing, and any other for what it stood for. -/
theorem find?_insert (entries : Entries κ α) (key other : κ) (a : α) :
    (entries.insert key a).find? other = if other = key then some a else entries.find? other :=
  lookup_put key other a entries.pairs

/-- A key that is there keeps its place, and any other comes last. -/
theorem keys_insert (entries : Entries κ α) (key : κ) (a : α) :
    (entries.insert key a).keys =
      if key ∈ entries.keys then entries.keys else entries.keys ++ [key] :=
  keys_put key a entries.pairs

/-- The last pair of a row is put in after all others. -/
theorem ofList_concat (pairs : List (κ × α)) (pair : κ × α) :
    ofList (pairs ++ [pair]) = (ofList pairs).insert pair.1 pair.2 := by
  simp [ofList]

omit [DecidableEq κ] in
/-- Among the first appearances of keys, one more key comes last if it is new. -/
theorem eraseDups_concat [BEq κ] [LawfulBEq κ] (keys : List κ) (key : κ) :
    (keys ++ [key]).eraseDups =
      if key ∈ keys then keys.eraseDups else keys.eraseDups ++ [key] := by
  rw [List.eraseDups_append]
  by_cases present : key ∈ keys
  · simp [present, List.removeAll]
  · simp [present, List.removeAll, List.eraseDups_cons]

omit [DecidableEq κ] in
/-- Keys that are distinct are all first appearances. -/
theorem eraseDups_of_nodup [BEq κ] [LawfulBEq κ] {keys : List κ} (distinct : keys.Nodup) :
    keys.eraseDups = keys := by
  induction keys using List.reverseRecOn with
  | nil => rfl
  | append_singleton keys key inductionHypothesis =>
    obtain ⟨before, -, apart⟩ := List.nodup_append.1 distinct
    have new : key ∉ keys := fun present => apart key present key (by simp) rfl
    rw [eraseDups_concat, if_neg new, inductionHypothesis before]

/-- The keys of a row of pairs stand in the order in which they first appear. -/
theorem keys_ofList [BEq κ] [LawfulBEq κ] (pairs : List (κ × α)) :
    (ofList pairs).keys = (pairs.map Prod.fst).eraseDups := by
  induction pairs using List.reverseRecOn with
  | nil => rfl
  | append_singleton pairs pair inductionHypothesis =>
    rw [ofList_concat, keys_insert, inductionHypothesis, List.map_append, List.map_singleton,
      eraseDups_concat]
    simp only [List.mem_eraseDups]

/-- First appearances are distinct: they are the keys of entries. -/
theorem nodup_eraseDups [BEq κ] [LawfulBEq κ] (keys : List κ) : keys.eraseDups.Nodup := by
  have distinct : (ofList (keys.map fun key => (key, ()))).keys.Nodup := (ofList _).distinct
  rw [keys_ofList, List.map_map] at distinct
  simpa [Function.comp_def] using distinct

/-- A key stands for what the last pair with this key says. -/
theorem find?_ofList (pairs : List (κ × α)) (key : κ) :
    (ofList pairs).find? key = pairs.reverse.lookup key := by
  induction pairs using List.reverseRecOn with
  | nil => rfl
  | append_singleton pairs pair inductionHypothesis =>
    rw [ofList_concat, find?_insert, inductionHypothesis, List.reverse_concat, lookup_pair]

end InputDeck.Entries
