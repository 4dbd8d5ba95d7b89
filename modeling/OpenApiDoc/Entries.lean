/-!
# Ordered entries

The named parts of a document (members of an object, properties of a schema, definitions,
responses) are kept as lists of key and value in the order in which they were written.

A key that is inserted again keeps its place and takes the new value, a new key goes to the end,
and `eraseSwap` removes a key by letting the last entry take its place.
-/

namespace OpenApiDoc

universe u v

/-- Keys with their values, in order. -/
abbrev Entries (α : Type u) := List (String × α)

/-- Whether a key belongs to a vendor extension: it starts with `x-`. -/
def isExtensionKey (key : String) : Bool := key.toList.take 2 == ['x', '-']

namespace Entries

variable {α : Type u} {β : Type v}

/-- The value of the first entry with this key. -/
def get? (key : String) : List (String × α) → Option α
  | [] => none
  | (k, v) :: rest => if k = key then some v else get? key rest

/-- Whether some entry has this key. -/
def has (key : String) (entries : List (String × α)) : Bool :=
  (get? key entries).isSome

/-- The keys in order. -/
def keys (entries : List (String × α)) : List String :=
  entries.map Prod.fst

/-- The values in order. -/
def values (entries : List (String × α)) : List α :=
  entries.map Prod.snd

/-- Write a key: a present key keeps its place, a new one goes to the end. -/
def insert (key : String) (value : α) : List (String × α) → List (String × α)
  | [] => [(key, value)]
  | (k, v) :: rest => if k = key then (k, value) :: rest else (k, v) :: insert key value rest

/-- Insert entry after entry. -/
def insertAll (entries added : List (String × α)) : List (String × α) :=
  added.foldl (fun acc entry => insert entry.1 entry.2 acc) entries

/-- The entries of a list in which keys may repeat: first place, last value. -/
def ofList (entries : List (String × α)) : List (String × α) :=
  insertAll [] entries

/-- Change the value of a key where it is present. -/
def modify (key : String) (f : α → α) (entries : List (String × α)) : List (String × α) :=
  entries.map fun entry => if entry.1 = key then (entry.1, f entry.2) else entry

/-- Change every value. -/
def mapValues (f : α → β) (entries : List (String × α)) : List (String × β) :=
  entries.map fun entry => (entry.1, f entry.2)

/-- Remove a key; the last entry takes the place of the removed one. -/
def eraseSwap (key : String) : List (String × α) → List (String × α)
  | [] => []
  | (k, v) :: rest =>
    if k = key then
      match rest.getLast? with
      | none => []
      | some last => last :: rest.dropLast
    else (k, v) :: eraseSwap key rest

/-! ### Lookups after writing -/

@[simp] theorem get?_nil (key : String) : get? key ([] : List (String × α)) = none := rfl

theorem get?_cons (key k : String) (v : α) (rest : List (String × α)) :
    get? key ((k, v) :: rest) = if k = key then some v else get? key rest := rfl

theorem mem_keys_of_get? {key : String} {value : α} :
    ∀ {entries : List (String × α)}, get? key entries = some value → key ∈ keys entries
  | [], h => by simp at h
  | (k, v) :: rest, h => by
    rw [get?_cons] at h
    by_cases hk : k = key
    · simp [keys, hk]
    · rw [if_neg hk] at h
      exact List.mem_cons_of_mem _ (mem_keys_of_get? h)

theorem mem_of_get? {key : String} {value : α} :
    ∀ {entries : List (String × α)}, get? key entries = some value → (key, value) ∈ entries
  | [], h => by simp at h
  | (k, v) :: rest, h => by
    rw [get?_cons] at h
    by_cases hk : k = key
    · rw [if_pos hk, Option.some.injEq] at h
      simp [hk, h]
    · rw [if_neg hk] at h
      exact List.mem_cons_of_mem _ (mem_of_get? h)

theorem get?_insert (key k : String) (value : α) (entries : List (String × α)) :
    get? k (insert key value entries) = if key = k then some value else get? k entries := by
  induction entries with
  | nil => simp [insert, get?]
  | cons entry rest ih =>
    obtain ⟨k', v'⟩ := entry
    by_cases h : k' = key
    · subst h
      by_cases hk : k' = k <;> simp [insert, get?, hk]
    · simp only [insert, h, if_false, get?_cons, ih]
      by_cases hk : k' = k
      · subst hk
        simp [Ne.symm h]
      · simp [hk]

theorem keys_insert (key : String) (value : α) (entries : List (String × α)) :
    keys (insert key value entries) =
      if key ∈ keys entries then keys entries else keys entries ++ [key] := by
  induction entries with
  | nil => simp [insert, keys]
  | cons entry rest ih =>
    obtain ⟨k, v⟩ := entry
    by_cases h : k = key
    · subst h
      simp [insert, keys]
    · have hne : key ≠ k := fun e => h e.symm
      simp only [keys] at ih
      by_cases hm : key ∈ rest.map Prod.fst <;> simp_all [insert, keys]

theorem mem_keys_insert {key k : String} {value : α} {entries : List (String × α)} :
    k ∈ keys (insert key value entries) ↔ k = key ∨ k ∈ keys entries := by
  rw [keys_insert]
  split
  · next hm =>
    refine ⟨Or.inr, fun h => h.elim (fun e => e ▸ hm) id⟩
  · rw [List.mem_append, List.mem_singleton, Or.comm]

theorem nodup_keys_insert {key : String} {value : α} {entries : List (String × α)}
    (h : (keys entries).Nodup) : (keys (insert key value entries)).Nodup := by
  rw [keys_insert]
  split
  · exact h
  · next hm =>
    rw [List.nodup_append]
    exact ⟨h, by simp, fun a ha b hb => by
      rcases List.mem_singleton.1 hb with rfl
      exact fun e => hm (e ▸ ha)⟩

theorem mem_of_mem_insert {key : String} {value : α} {entry : String × α} :
    ∀ {entries : List (String × α)}, entry ∈ insert key value entries →
      entry = (key, value) ∨ entry ∈ entries
  | [], h => Or.inl (List.mem_singleton.1 h)
  | (k, v) :: rest, h => by
    by_cases hk : k = key
    · rw [insert, if_pos hk, List.mem_cons, hk] at h
      exact h.imp_right (List.mem_cons_of_mem _)
    · rw [insert, if_neg hk, List.mem_cons] at h
      rcases h with h | h
      · exact Or.inr (h ▸ List.mem_cons_self)
      · exact (mem_of_mem_insert h).imp_right (List.mem_cons_of_mem _)

theorem mem_of_mem_insertAll {entry : String × α} {entries added : List (String × α)}
    (h : entry ∈ insertAll entries added) : entry ∈ entries ∨ entry ∈ added := by
  induction added generalizing entries with
  | nil => exact Or.inl h
  | cons new rest ih =>
    rcases ih h with h | h
    · rcases mem_of_mem_insert h with rfl | h
      · exact Or.inr List.mem_cons_self
      · exact Or.inl h
    · exact Or.inr (List.mem_cons_of_mem _ h)

theorem mem_keys_insertAll {k : String} {entries added : List (String × α)} :
    k ∈ keys (insertAll entries added) ↔ k ∈ keys entries ∨ k ∈ keys added := by
  induction added generalizing entries with
  | nil => simp [insertAll, keys]
  | cons new rest ih =>
    have hrest : k ∈ keys (insertAll (insert new.1 new.2 entries) rest) ↔
        k ∈ keys (insert new.1 new.2 entries) ∨ k ∈ keys rest := ih
    rw [mem_keys_insert, or_assoc, or_left_comm] at hrest
    exact hrest.trans (by simp [keys])

/-- Writing the value that a key has changes nothing. -/
theorem insert_of_get? {key : String} {value : α} :
    ∀ {entries : List (String × α)}, get? key entries = some value →
      insert key value entries = entries
  | [], h => by simp at h
  | (k, v) :: rest, h => by
    rw [get?_cons] at h
    by_cases hk : k = key
    · rw [if_pos hk, Option.some.injEq] at h
      rw [insert, if_pos hk, h]
    · rw [if_neg hk] at h
      rw [insert, if_neg hk, insert_of_get? h]

theorem nodup_keys_insertAll {entries : List (String × α)} (added : List (String × α))
    (h : (keys entries).Nodup) : (keys (insertAll entries added)).Nodup := by
  induction added generalizing entries with
  | nil => exact h
  | cons entry rest ih => exact ih (nodup_keys_insert h)

theorem nodup_keys_ofList (entries : List (String × α)) : (keys (ofList entries)).Nodup :=
  nodup_keys_insertAll entries List.nodup_nil

end Entries

end OpenApiDoc
