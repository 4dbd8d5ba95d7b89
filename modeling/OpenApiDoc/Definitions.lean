import OpenApiDoc.Reference
import OpenApiDoc.Schema

/-!
# Definitions

The named schemas of a document with the document's own address, and what the required list of a
composed schema comes to.
-/

namespace OpenApiDoc

/-- The named schemas of a document, in order and under distinct names. -/
structure Definitions where
  entries : List (String × Schema) := []
  nodup : (Entries.keys entries).Nodup := by exact List.nodup_nil
  /-- The `$self` address of the document. -/
  self : Option String := none

namespace Definitions

/-- No definitions. -/
def empty : Definitions := {}

/-- Add a definition, or replace the one of this name in its place. -/
def insert (d : Definitions) (name : String) (schema : Schema) : Definitions :=
  { d with
    entries := Entries.insert name schema d.entries
    nodup := Entries.nodup_keys_insert d.nodup }

/-- Definitions from a list in which names may repeat. -/
def ofList (entries : List (String × Schema)) : Definitions :=
  { entries := Entries.ofList entries, nodup := Entries.nodup_keys_ofList entries }

/-- The definitions of a document with this address. -/
def withSelf (d : Definitions) (address : String) : Definitions :=
  { d with self := some address }

/-- The definition of this name. -/
def get? (d : Definitions) (name : String) : Option Schema := Entries.get? name d.entries

/-- Whether there is a definition of this name. -/
def contains (d : Definitions) (name : String) : Bool := (d.get? name).isSome

/-- The names in order. -/
def names (d : Definitions) : List String := Entries.keys d.entries

/-- The number of definitions. -/
def size (d : Definitions) : Nat := d.entries.length

/-- The name of the definition that a reference stands for. -/
def referenceName (d : Definitions) (reference : String) : String :=
  Reference.definitionName d.self reference

/-- The definition that a reference stands for. -/
def lookup? (d : Definitions) (reference : String) : Option Schema :=
  d.get? (d.referenceName reference)

@[simp] theorem get?_insert (d : Definitions) (name key : String) (schema : Schema) :
    (d.insert name schema).get? key = if name = key then some schema else d.get? key :=
  Entries.get?_insert name key schema d.entries

/-! ### Names not yet visited -/

/-- The number of definitions whose names are not in a list. -/
def unvisited (d : Definitions) (visited : List String) : Nat :=
  d.names.countP fun name => !visited.contains name

private theorem countP_not_contains_lt {name : String} {visited : List String} :
    ∀ {names : List String}, name ∈ names → name ∉ visited →
      names.countP (fun n => !(name :: visited).contains n)
        < names.countP (fun n => !visited.contains n)
  | [], h, _ => absurd h (by simp)
  | n :: names, h, hv => by
    have le : names.countP (fun n => !(name :: visited).contains n)
        ≤ names.countP (fun n => !visited.contains n) :=
      List.countP_mono_left fun x _ hx => by
        simp only [List.contains_cons, Bool.not_eq_true', Bool.or_eq_false_iff] at hx ⊢
        simpa using hx.2
    by_cases hn : n = name
    · subst hn
      have h1 : (!(n :: visited).contains n) = false := by simp
      have h2 : (!visited.contains n) = true := by simpa using hv
      rw [List.countP_cons, List.countP_cons, h1, h2]
      simp only [Bool.false_eq_true, if_false, if_true]
      omega
    · have hm : name ∈ names := (List.mem_cons.1 h).resolve_left fun e => hn e.symm
      have lt := countP_not_contains_lt hm hv
      have e : (!(name :: visited).contains n) = (!visited.contains n) := by
        have hb : (n == name) = false := by simpa using hn
        rw [List.contains_cons, hb, Bool.false_or]
      rw [List.countP_cons, List.countP_cons, e]
      omega

theorem mem_names_of_get? {d : Definitions} {name : String} {schema : Schema}
    (h : d.get? name = some schema) : name ∈ d.names :=
  Entries.mem_keys_of_get? h

/-- Visiting a definition that was not visited leaves fewer unvisited ones. -/
theorem unvisited_cons_lt {d : Definitions} {name : String} {schema : Schema}
    {visited : List String} (h : d.get? name = some schema) (hv : name ∉ visited) :
    d.unvisited (name :: visited) < d.unvisited visited :=
  countP_not_contains_lt (mem_names_of_get? h) hv

end Definitions

end OpenApiDoc
