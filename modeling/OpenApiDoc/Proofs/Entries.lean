import Mathlib.Data.List.Forall2
import Mathlib.Data.List.Induction
import Mathlib.Data.List.Nodup
import Mathlib.Data.List.Perm.Basic
import OpenApiDoc.Entries

/-!
# Entries with distinct keys

Lookups after the operations on entries, and what removing a key leaves: the other entries, in
some order. A *removal* is any way to do so. Two lists of entries are *related* if they have the
same keys in the same order and related values.
-/

namespace OpenApiDoc.Entries

variable {α β : Type} {key k : String} {value : α} {entries entries' : List (String × α)}

/-! ### Lookups -/

lemma get?_eq_none : get? key entries = none ↔ key ∉ keys entries := by
  induction entries with
  | nil => simp [keys]
  | cons entry rest ih =>
    obtain ⟨k, v⟩ := entry
    rw [get?_cons]
    by_cases hk : k = key
    · simp [keys, hk]
    · rw [if_neg hk, ih]
      simp [keys, Ne.symm hk]

lemma has_eq_true : has key entries = true ↔ key ∈ keys entries := by
  rw [has, Option.isSome_iff_ne_none, ne_eq, get?_eq_none, not_not]

lemma has_eq_false : has key entries = false ↔ key ∉ keys entries := by
  rw [← has_eq_true, Bool.not_eq_true]

lemma get?_append (key : String) (entries entries' : List (String × α)) :
    get? key (entries ++ entries') = (get? key entries).or (get? key entries') := by
  induction entries with
  | nil => rfl
  | cons entry rest ih =>
    obtain ⟨k, v⟩ := entry
    rw [List.cons_append, get?_cons, get?_cons]
    split
    · rfl
    · exact ih

lemma get?_filter (key : String) (p : String → Bool) (entries : List (String × α)) :
    get? key (entries.filter fun entry => p entry.1) =
      if p key then get? key entries else none := by
  induction entries with
  | nil => simp
  | cons entry rest ih =>
    obtain ⟨k, v⟩ := entry
    by_cases hk : k = key
    · subst hk
      cases hp : p k <;> simp_all [get?_cons]
    · cases hp : p k <;> simp_all [get?_cons]

lemma get?_map {f : String → α → β} (key : String) (entries : List (String × α)) :
    get? key (entries.map fun entry => (entry.1, f entry.1 entry.2)) =
      (get? key entries).map (f key) := by
  induction entries with
  | nil => rfl
  | cons entry rest ih =>
    obtain ⟨k, v⟩ := entry
    rw [List.map_cons, get?_cons, get?_cons]
    split
    · next hk => rw [hk, Option.map_some]
    · exact ih

lemma modify_eq_map (key : String) (f : α → α) (entries : List (String × α)) :
    modify key f entries =
      entries.map fun entry => (entry.1, if entry.1 = key then f entry.2 else entry.2) := by
  rw [modify]
  refine List.map_congr_left fun entry _ => ?_
  split <;> rfl

lemma get?_modify (key : String) (f : α → α) (k : String) (entries : List (String × α)) :
    get? k (modify key f entries) =
      if k = key then (get? k entries).map f else get? k entries := by
  rw [modify_eq_map, get?_map (f := fun k v => if k = key then f v else v)]
  split <;> simp

@[simp] lemma keys_append (entries entries' : List (String × α)) :
    keys (entries ++ entries') = keys entries ++ keys entries' := List.map_append

/-! ### Distinct keys -/

lemma not_mem_keys_filter {p : String × α → Bool} (h : key ∉ keys entries) :
    key ∉ keys (entries.filter p) := fun hkey =>
  h ((List.filter_sublist.map Prod.fst).subset hkey)

lemma nodup_keys_filter (p : String × α → Bool) (nodup : (keys entries).Nodup) :
    (keys (entries.filter p)).Nodup :=
  (List.filter_sublist.map Prod.fst).nodup nodup

lemma nodup_keys_perm (perm : entries.Perm entries') :
    (keys entries).Nodup ↔ (keys entries').Nodup :=
  (perm.map Prod.fst).nodup_iff

lemma get?_of_mem {entry : String × α} (nodup : (keys entries).Nodup) (hmem : entry ∈ entries) :
    get? entry.1 entries = some entry.2 := by
  induction entries with
  | nil => cases hmem
  | cons first rest ih =>
    obtain ⟨k, v⟩ := first
    obtain ⟨hk, nodup⟩ := List.nodup_cons.1 nodup
    rw [get?_cons]
    rcases List.mem_cons.1 hmem with rfl | hmem
    · rw [if_pos rfl]
    · have hne : k ≠ entry.1 := fun h => hk (List.mem_map.2 ⟨entry, hmem, h.symm⟩)
      rw [if_neg hne, ih nodup hmem]

/-- The order of entries with distinct keys makes no difference to lookups. -/
lemma get?_perm (perm : entries.Perm entries') (nodup : (keys entries).Nodup) (key : String) :
    get? key entries = get? key entries' := by
  induction perm with
  | nil => rfl
  | cons entry _ ih =>
    obtain ⟨k, v⟩ := entry
    rw [get?_cons, get?_cons, ih (List.nodup_cons.1 nodup).2]
  | swap first second rest =>
    obtain ⟨k, v⟩ := first
    obtain ⟨k', v'⟩ := second
    have hne : k' ≠ k := fun h => (List.nodup_cons.1 nodup).1 (by simp [h])
    simp only [get?_cons]
    split <;> split <;> simp_all
  | trans perm _ ih ih' => rw [ih nodup, ih' ((nodup_keys_perm perm).1 nodup)]

lemma nodup_keys_concat (nodup : (keys entries).Nodup) (h : key ∉ keys entries) :
    (keys (entries ++ [(key, value)])).Nodup := by
  rw [keys_append]
  refine nodup.append (List.nodup_singleton key) ?_
  exact List.disjoint_singleton.2 h

/-! ### Writing and removing -/

lemma insert_of_not_mem (h : key ∉ keys entries) :
    insert key value entries = entries ++ [(key, value)] := by
  induction entries with
  | nil => rfl
  | cons entry rest ih =>
    obtain ⟨k, v⟩ := entry
    simp only [keys, List.map_cons, List.mem_cons, not_or] at h
    rw [insert, if_neg (Ne.symm h.1), ih h.2, List.cons_append]

lemma eraseSwap_perm (h : get? key entries = some value) :
    ((key, value) :: eraseSwap key entries).Perm entries := by
  induction entries with
  | nil => cases h
  | cons entry rest ih =>
    obtain ⟨k, v⟩ := entry
    rw [get?_cons] at h
    by_cases hk : k = key
    · rw [if_pos hk, Option.some.injEq] at h
      subst hk h
      rw [eraseSwap, if_pos rfl]
      refine List.Perm.cons _ ?_
      cases hlast : rest.getLast? with
      | none => rw [List.getLast?_eq_none_iff.1 hlast]
      | some last =>
        have hrest : rest.dropLast ++ [last] = rest :=
          List.dropLast_append_getLast? last (Option.mem_def.2 hlast)
        calc (last :: rest.dropLast).Perm (rest.dropLast ++ [last]) :=
              (List.perm_append_singleton last _).symm
          _ = rest := hrest
    · rw [if_neg hk] at h
      rw [eraseSwap, if_neg hk]
      exact (List.Perm.swap _ _ _).trans ((ih h).cons _)

lemma eraseSwap_of_not_mem (h : key ∉ keys entries) : eraseSwap key entries = entries := by
  induction entries with
  | nil => rfl
  | cons entry rest ih =>
    obtain ⟨k, v⟩ := entry
    simp only [keys, List.map_cons, List.mem_cons, not_or] at h
    rw [eraseSwap, if_neg (Ne.symm h.1), ih h.2]

/-- Removing a key leaves the entries with other keys. -/
lemma eraseSwap_perm_filter (key : String) (nodup : (keys entries).Nodup) :
    (eraseSwap key entries).Perm (entries.filter fun entry => entry.1 ≠ key) := by
  have hother : ∀ {list : List (String × α)}, key ∉ keys list →
      list.filter (fun entry => entry.1 ≠ key) = list := by
    intro list hkey
    refine List.filter_eq_self.2 fun entry hentry => decide_eq_true fun h => hkey ?_
    exact h ▸ List.mem_map_of_mem hentry
  cases hget : get? key entries with
  | none =>
    have hkey := get?_eq_none.1 hget
    rw [eraseSwap_of_not_mem hkey, hother hkey]
  | some value =>
    have hperm := eraseSwap_perm hget
    have hkey : key ∉ keys (eraseSwap key entries) :=
      (List.nodup_cons.1 ((nodup_keys_perm hperm).2 nodup)).1
    have hfilter := hperm.filter fun entry => entry.1 ≠ key
    rwa [List.filter_cons_of_neg (by simp), hother hkey] at hfilter

/-- A way to remove a key: the entries with other keys stay, in whatever order. -/
structure Removal (α : Type) where
  erase : String → List (String × α) → List (String × α)
  perm : ∀ key entries, (keys entries).Nodup →
    (erase key entries).Perm (entries.filter fun entry => entry.1 ≠ key)

namespace Removal

/-- The last entry takes the place of the one that is removed. -/
def swap : Removal α := ⟨eraseSwap, fun key _ nodup => eraseSwap_perm_filter key nodup⟩

/-- The other entries stay in their order. -/
def inOrder : Removal α := ⟨fun key => List.filter fun entry => entry.1 ≠ key, fun _ _ _ => .rfl⟩

variable (r : Removal α)

lemma nodup_keys_erase (key : String) (nodup : (keys entries).Nodup) :
    (keys (r.erase key entries)).Nodup :=
  (nodup_keys_perm (r.perm key entries nodup)).2 (nodup_keys_filter _ nodup)

lemma get?_erase (nodup : (keys entries).Nodup) (k : String) :
    get? k (r.erase key entries) = if k = key then none else get? k entries := by
  rw [get?_perm (r.perm key entries nodup) (r.nodup_keys_erase key nodup),
    get?_filter (p := fun key' => decide (key' ≠ key))]
  by_cases hk : k = key <;> simp [hk]

end Removal

/-- Writing a key only where it is missing. -/
lemma get?_insert_of_missing (key k : String) (value : α) (entries : List (String × α)) :
    get? k (if has key entries then entries else insert key value entries) =
      (get? k entries).or (if k = key then some value else none) := by
  cases hhas : has key entries with
  | true =>
    rw [if_pos rfl]
    by_cases hk : k = key
    · obtain ⟨v, hv⟩ := Option.isSome_iff_exists.1 hhas
      rw [hk, hv, Option.some_or]
    · rw [if_neg hk, Option.or_none]
  | false =>
    have hnone : get? key entries = none :=
      Option.isNone_iff_eq_none.1 (by simpa [has] using hhas)
    rw [if_neg (by simp), get?_insert]
    by_cases hk : k = key
    · rw [if_pos hk.symm, if_pos hk, hk, hnone, Option.none_or]
    · rw [if_neg (Ne.symm hk), if_neg hk, Option.or_none]

/-! ### Writing many keys -/

lemma insert_insert_self (key : String) (v value : α) (entries : List (String × α)) :
    insert key value (insert key v entries) = insert key value entries := by
  induction entries with
  | nil => simp [insert]
  | cons entry rest ih =>
    obtain ⟨k', v'⟩ := entry
    by_cases hk : k' = key <;> simp [insert, hk, ih]

/-- A key that is present may be written before or after another one. -/
lemma insert_comm_of_mem (v : α) (hmem : key ∈ keys entries) (hne : key ≠ k) :
    insert key value (insert k v entries) = insert k v (insert key value entries) := by
  induction entries with
  | nil => cases hmem
  | cons entry rest ih =>
    obtain ⟨k', v'⟩ := entry
    by_cases hkey : k' = key
    · subst hkey
      simp [insert, hne]
    · have hrest : key ∈ keys rest := (List.mem_cons.1 hmem).resolve_left (Ne.symm hkey)
      by_cases hk : k' = k
      · simp [insert, hk, Ne.symm hne]
      · simp [insert, hkey, hk, ih hrest]

lemma insertAll_cons (entries : List (String × α)) (entry : String × α)
    (added : List (String × α)) :
    insertAll entries (entry :: added) = insertAll (insert entry.1 entry.2 entries) added := rfl

lemma insertAll_append (entries added added' : List (String × α)) :
    insertAll entries (added ++ added') = insertAll (insertAll entries added) added' :=
  List.foldl_append

lemma insert_insertAll_of_mem {added : List (String × α)} (hmem : key ∈ keys entries)
    (hadded : key ∉ keys added) :
    insert key value (insertAll entries added) = insertAll (insert key value entries) added := by
  induction added generalizing entries with
  | nil => rfl
  | cons entry added ih =>
    simp only [keys, List.map_cons, List.mem_cons, not_or] at hadded
    rw [insertAll_cons, insertAll_cons, ih (mem_keys_insert.2 (.inr hmem)) hadded.2,
      insert_comm_of_mem entry.2 hmem hadded.1]

lemma insertAll_insert {added : List (String × α)} (nodup : (keys added).Nodup) (key : String)
    (value : α) (entries : List (String × α)) :
    insertAll entries (insert key value added) = insert key value (insertAll entries added) := by
  induction added generalizing entries with
  | nil => rfl
  | cons entry added ih =>
    obtain ⟨k, v⟩ := entry
    obtain ⟨hk, nodup⟩ := List.nodup_cons.1 nodup
    rw [insert, insertAll_cons]
    split
    · next heq =>
      subst heq
      rw [insertAll_cons, insert_insertAll_of_mem (mem_keys_insert.2 (.inl rfl)) hk,
        insert_insert_self]
    · rw [insertAll_cons, ih nodup]

/-! ### Lists in which keys repeat -/

lemma ofList_concat (entries : List (String × α)) (entry : String × α) :
    ofList (entries ++ [entry]) = insert entry.1 entry.2 (ofList entries) :=
  insertAll_append [] entries [entry]

/-- Every key keeps the place where it occurs first. -/
lemma keys_ofList (entries : List (String × α)) :
    keys (ofList entries) = (keys entries).eraseDups := by
  induction entries using List.reverseRecOn with
  | nil => rfl
  | append_singleton entries entry ih =>
    have hlast : keys [entry] = [entry.1] := rfl
    rw [ofList_concat, keys_insert, ih, keys_append, hlast, List.eraseDups_append]
    by_cases hmem : entry.1 ∈ keys entries
    · rw [if_pos (List.mem_eraseDups.2 hmem)]
      simp [List.removeAll, hmem]
    · rw [if_neg (fun h => hmem (List.mem_eraseDups.1 h))]
      simp [List.removeAll, hmem, List.eraseDups_cons]

/-- Every key has the value that it is given last. -/
lemma get?_ofList (key : String) (entries : List (String × α)) :
    get? key (ofList entries) = get? key entries.reverse := by
  induction entries using List.reverseRecOn with
  | nil => rfl
  | append_singleton entries entry ih =>
    rw [ofList_concat, get?_insert, ih, List.reverse_concat, get?_cons]

/-- Whether keys repeat makes no difference to writing them. -/
lemma insertAll_ofList (entries added : List (String × α)) :
    insertAll entries (ofList added) = insertAll entries added := by
  induction added using List.reverseRecOn with
  | nil => rfl
  | append_singleton added entry ih =>
    rw [ofList_concat, insertAll_insert (nodup_keys_ofList added), ih, insertAll_append]
    rfl

lemma get?_flatMap {γ : Type} (key : String) (f : γ → List (String × α)) (l : List γ) :
    get? key (l.flatMap f) = l.findSome? fun x => get? key (f x) := by
  induction l with
  | nil => rfl
  | cons x l ih =>
    rw [List.flatMap_cons, get?_append, ih, List.findSome?_cons]
    cases get? key (f x) <;> rfl

lemma ofList_eq_self (nodup : (keys entries).Nodup) : ofList entries = entries := by
  induction entries using List.reverseRecOn with
  | nil => rfl
  | append_singleton entries entry ih =>
    rw [keys_append, List.nodup_append] at nodup
    obtain ⟨hentries, -, hdisjoint⟩ := nodup
    have hlast : entry.1 ∉ keys entries := fun h =>
      hdisjoint entry.1 h entry.1 (List.mem_singleton.2 rfl) rfl
    rw [ofList_concat, ih hentries, insert_of_not_mem hlast]

/-! ### Related entries -/

/-- The same keys in the same order, with related values. -/
def Related (R : α → β → Prop) : List (String × α) → List (String × β) → Prop :=
  List.Forall₂ fun entry entry' => entry.1 = entry'.1 ∧ R entry.2 entry'.2

variable {R : α → β → Prop}

lemma related_mapValues {γ : Type} {f : γ → α} {g : γ → β} {entries : List (String × γ)} :
    Related R (mapValues f entries) (mapValues g entries) ↔
      ∀ e ∈ entries, R (f e.2) (g e.2) := by
  simp only [Related, mapValues, List.forall₂_map_left_iff, List.forall₂_map_right_iff,
    List.forall₂_same, true_and]

lemma related_eq : Related Eq entries entries' ↔ entries = entries' := by
  have heq : ∀ e e' : String × α, e.1 = e'.1 ∧ e.2 = e'.2 ↔ e = e' :=
    fun _ _ => Prod.ext_iff.symm
  simp only [Related, heq, List.forall₂_eq_eq_eq]

lemma Related.keys_eq {entries : List (String × α)} {entries' : List (String × β)}
    (h : Related R entries entries') : keys entries = keys entries' := by
  induction h with
  | nil => rfl
  | cons hentry _ ih =>
    simp only [keys] at ih
    simp only [keys, List.map_cons, hentry.1, ih]

lemma Related.reverse {entries : List (String × α)} {entries' : List (String × β)}
    (h : Related R entries entries') : Related R entries.reverse entries'.reverse :=
  List.rel_reverse h

lemma Related.get? {entries : List (String × α)} {entries' : List (String × β)}
    (h : Related R entries entries') (key : String) :
    Option.Rel R (Entries.get? key entries) (Entries.get? key entries') := by
  induction h with
  | nil => exact .none
  | cons hentry _ ih =>
    obtain ⟨hkey, hvalue⟩ := hentry
    rw [get?_cons, get?_cons, hkey]
    split
    · exact .some hvalue
    · exact ih

lemma Related.insert {entries : List (String × α)} {entries' : List (String × β)} {value' : β}
    (h : Related R entries entries') (hvalue : R value value') :
    Related R (Entries.insert key value entries) (Entries.insert key value' entries') := by
  induction h with
  | nil => exact .cons ⟨rfl, hvalue⟩ .nil
  | @cons entry entry' _ _ hentry hrest ih =>
    obtain ⟨k, v⟩ := entry
    obtain ⟨k', v'⟩ := entry'
    obtain ⟨rfl, hv⟩ := hentry
    rw [Entries.insert, Entries.insert]
    split
    · exact .cons ⟨rfl, hvalue⟩ hrest
    · exact .cons ⟨rfl, hv⟩ ih

lemma Related.ofList {added : List (String × α)} {added' : List (String × β)}
    (h : Related R added added') : Related R (Entries.ofList added) (Entries.ofList added') := by
  have step : ∀ {entries : List (String × α)} {entries' : List (String × β)},
      Related R entries entries' →
        Related R (insertAll entries added) (insertAll entries' added') := by
    induction h with
    | nil => exact id
    | cons hentry _ ih =>
      intro entries entries' hentries
      rw [insertAll, insertAll, List.foldl_cons, List.foldl_cons, hentry.1]
      exact ih (hentries.insert hentry.2)
  exact step .nil

/-- Entries whose values are related key by key are related entry by entry, up to the order. -/
lemma exists_perm_of_get? {S : String → α → β → Prop} {entries : List (String × α)}
    {entries' : List (String × β)} (nodup : (keys entries).Nodup)
    (nodup' : (keys entries').Nodup)
    (h : ∀ key, Option.Rel (S key) (Entries.get? key entries) (Entries.get? key entries')) :
    ∃ aligned : List (String × β), aligned.Perm entries' ∧
      List.Forall₂ (fun e e' => e.1 = e'.1 ∧ S e.1 e.2 e'.2) entries aligned := by
  induction entries generalizing entries' with
  | nil =>
    refine ⟨[], List.Perm.of_eq (List.eq_nil_iff_forall_not_mem.2 fun e' hmem => ?_).symm, .nil⟩
    have hrel := h e'.1
    rw [get?_of_mem nodup' hmem] at hrel
    cases hrel
  | cons e rest ih =>
    obtain ⟨key, value⟩ := e
    obtain ⟨hkey, hrest⟩ := List.nodup_cons.1 nodup
    have hrel := h key
    rw [get?_cons, if_pos rfl] at hrel
    cases hget : Entries.get? key entries' with
    | none =>
      rw [hget] at hrel
      cases hrel
    | some value' =>
      rw [hget, Option.rel_some_some] at hrel
      have herased : ∀ k, Option.Rel (S k) (Entries.get? k rest)
          (Entries.get? k (eraseSwap key entries')) := by
        intro k
        rw [show eraseSwap key entries' = Removal.swap.erase key entries' from rfl,
          Removal.swap.get?_erase nodup']
        by_cases hk : k = key
        · rw [if_pos hk, hk, get?_eq_none.2 hkey]
          exact .none
        · have hrel := h k
          rw [get?_cons, if_neg (Ne.symm hk)] at hrel
          rwa [if_neg hk]
      obtain ⟨aligned, perm, haligned⟩ :=
        ih hrest (Removal.swap.nodup_keys_erase key nodup') herased
      exact ⟨(key, value') :: aligned, (perm.cons _).trans (eraseSwap_perm hget),
        .cons ⟨rfl, hrel⟩ haligned⟩

end OpenApiDoc.Entries
