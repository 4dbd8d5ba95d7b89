import Mathlib.Data.List.Forall2
import Mathlib.Data.List.Pairwise
import Mathlib.Data.List.Perm.Basic
import OpenApiDoc.Decoding

/-!
# Decodings that agree

Two readings are *alike* if they both fail, of whatever fault, or both give a value and
the values are in a given relation. Readings of parts that are alike make readings of
the whole that are alike.

The members of an object have no order of their own. A record is read member by member, and the
order matters only for which of several faults is reported, as long as the keys are distinct.
-/

namespace OpenApiDoc

lemma bind_eq_ok {ε α β : Type} {x : Except ε α} {f : α → Except ε β} {b : β} :
    x.bind f = .ok b ↔ ∃ a, x = .ok a ∧ f a = .ok b := by
  cases x <;> simp [Except.bind]

lemma do_eq_ok {ε α β : Type} {x : Except ε α} {f : α → Except ε β} {b : β} :
    x >>= f = .ok b ↔ ∃ a, x = .ok a ∧ f a = .ok b := bind_eq_ok

lemma map_eq_ok {ε α β : Type} {x : Except ε α} {f : α → β} {b : β} :
    x.map f = .ok b ↔ ∃ a, x = .ok a ∧ f a = b := by
  cases x <;> simp [Except.map]

/-- Two readings both fail, or give values that are in a relation. -/
inductive Alike {ε α β : Type} (R : α → β → Prop) : Except ε α → Except ε β → Prop where
  | failed (e e' : ε) : Alike R (.error e) (.error e')
  | done {a : α} {b : β} (h : R a b) : Alike R (.ok a) (.ok b)

namespace Alike

variable {ε α β γ δ : Type} {R : α → β → Prop} {S : γ → δ → Prop}

lemma refl {R : α → α → Prop} (hR : ∀ a, R a a) (x : Except ε α) : Alike R x x := by
  cases x with
  | error e => exact .failed e e
  | ok a => exact .done (hR a)

lemma symm {R : α → α → Prop} (hR : ∀ a b, R a b → R b a) {x y : Except ε α}
    (h : Alike R x y) : Alike R y x := by
  cases h with
  | failed e e' => exact .failed e' e
  | done h => exact .done (hR _ _ h)

lemma trans {R : α → α → Prop} (hR : ∀ a b c, R a b → R b c → R a c) {x y z : Except ε α}
    (h : Alike R x y) (h' : Alike R y z) : Alike R x z := by
  cases h with
  | failed e e' =>
    cases h' with
    | failed _ e'' => exact .failed e e''
  | done hab =>
    cases h' with
    | done hbc => exact .done (hR _ _ _ hab hbc)

lemma mono {R' : α → β → Prop} (hR : ∀ a b, R a b → R' a b) {x : Except ε α} {y : Except ε β}
    (h : Alike R x y) : Alike R' x y := by
  cases h with
  | failed e e' => exact .failed e e'
  | done h => exact .done (hR _ _ h)

lemma bind {x : Except ε α} {y : Except ε β} {f : α → Except ε γ} {g : β → Except ε δ}
    (h : Alike R x y) (hf : ∀ a b, R a b → Alike S (f a) (g b)) :
    Alike S (x >>= f) (y >>= g) := by
  cases h with
  | failed e e' => exact .failed e e'
  | done h => exact hf _ _ h

lemma map {x : Except ε α} {y : Except ε β} {f : α → γ} {g : β → δ} (h : Alike R x y)
    (hf : ∀ a b, R a b → S (f a) (g b)) : Alike S (x.map f) (y.map g) := by
  cases h with
  | failed e e' => exact .failed e e'
  | done h => exact .done (hf _ _ h)

/-! ### Lists -/

lemma mapM {f : α → Except ε γ} {g : β → Except ε δ} {list : List α} {list' : List β}
    (h : List.Forall₂ R list list') (hf : ∀ a b, R a b → Alike S (f a) (g b)) :
    Alike (List.Forall₂ S) (list.mapM f) (list'.mapM g) := by
  induction h with
  | nil => exact .done .nil
  | cons hab _ ih =>
    rw [List.mapM_cons, List.mapM_cons]
    refine (hf _ _ hab).bind fun c d hcd => ih.bind fun cs ds hrest => ?_
    exact .done (.cons hcd hrest)

lemma foldlM {f : γ → α → Except ε γ} {g : δ → β → Except ε δ} {list : List α} {list' : List β}
    (h : List.Forall₂ R list list')
    (hf : ∀ a b, R a b → ∀ c d, S c d → Alike S (f c a) (g d b)) {c : γ} {d : δ} (hcd : S c d) :
    Alike S (list.foldlM f c) (list'.foldlM g d) := by
  induction h generalizing c d with
  | nil => exact .done hcd
  | cons hab _ ih =>
    rw [List.foldlM_cons, List.foldlM_cons]
    exact (hf _ _ hab _ _ hcd).bind fun _ _ h => ih h

/-- Steps that respect a relation, and of which any two may be exchanged, may be taken in any
order. -/
theorem foldlM_perm {R : γ → γ → Prop} (refl : ∀ c, R c c)
    (trans : ∀ a b c, R a b → R b c → R a c) {D : α → α → Prop} (symm : ∀ a b, D a b → D b a)
    {f : γ → α → Except ε γ} (respects : ∀ a c d, R c d → Alike R (f c a) (f d a))
    (exchange : ∀ a b, D a b → ∀ c, Alike R (f c a >>= (f · b)) (f c b >>= (f · a)))
    {list list' : List α} (perm : list.Perm list') (distinct : list.Pairwise D) {c d : γ}
    (hcd : R c d) : Alike R (list.foldlM f c) (list'.foldlM f d) := by
  have same : ∀ (list : List α) {c d : γ}, R c d → Alike R (list.foldlM f c) (list.foldlM f d) :=
    fun list c d hcd => foldlM (List.forall₂_refl list)
      (fun a b (hab : a = b) c d hcd => hab ▸ respects a c d hcd) hcd
  induction perm generalizing c d with
  | nil => exact .done hcd
  | cons a _ ih =>
    rw [List.foldlM_cons, List.foldlM_cons]
    exact (respects a c d hcd).bind fun _ _ h => ih (List.pairwise_cons.1 distinct).2 h
  | swap a b list =>
    have hba : D b a := (List.pairwise_cons.1 distinct).1 a List.mem_cons_self
    simp only [List.foldlM_cons, ← bind_assoc]
    refine Alike.bind ?_ fun _ _ h => same list h
    exact (exchange b a hba c).trans trans
      ((respects a c d hcd).bind fun _ _ h => respects b _ _ h)
  | trans perm _ ih ih' =>
    have distinct' := (perm.pairwise_iff (fun h => symm _ _ h)).1 distinct
    exact (ih distinct hcd).trans trans (ih' distinct' (refl d))

end Alike

/-! ### Records -/

namespace Decoder

variable {α : Type} {R : α → α → Prop}

namespace RecordField

/-- The assignment sets the field to a decoded value by one of certain setters. -/
def SetsBy (P : (α → α) → Prop) (f : RecordField α) : Prop :=
  ∃ (β : Type) (decode : Decoder β) (set : β → α → α),
    (∀ v r, f.assign v r = (decode v).map fun x => set x r) ∧ ∀ x, P (set x)

/-- Two fields may be assigned in either order. -/
def Commutes (f g : RecordField α) : Prop :=
  ∀ v w r, Alike Eq (f.assign v r >>= g.assign w) (g.assign w r >>= f.assign v)

instance : Std.Symm (Commutes : RecordField α → RecordField α → Prop) where
  symm _ _ h v w r := (h w v r).symm fun _ _ => Eq.symm

/-- Fields that are set to decoded values commute if their setters do. -/
lemma commutes_of_set {β γ : Type} {f g : RecordField α} {decode : Decoder β}
    {decode' : Decoder γ} {set : β → α → α} {set' : γ → α → α}
    (hf : ∀ v r, f.assign v r = (decode v).map fun x => set x r)
    (hg : ∀ v r, g.assign v r = (decode' v).map fun x => set' x r)
    (h : ∀ x y r, set' y (set x r) = set x (set' y r)) : f.Commutes g := by
  intro v w r
  have hg' : g.assign w = fun r => (decode' w).map fun x => set' x r := funext (hg w)
  have hf' : f.assign v = fun r => (decode v).map fun x => set x r := funext (hf v)
  rw [hf', hg']
  cases decode v with
  | error e =>
    cases decode' w with
    | error e' => exact .failed e e'
    | ok y => exact .failed e e
  | ok x =>
    cases decode' w with
    | error e' => exact .failed e' e'
    | ok y => exact .done (h x y r)

/-- A field that is set to a decoded value respects what its setters preserve. -/
lemma SetsBy.alike {f : RecordField α}
    (h : f.SetsBy fun set => ∀ a b, R a b → R (set a) (set b)) (v : Json) {a b : α}
    (hab : R a b) : Alike R (f.assign v a) (f.assign v b) := by
  obtain ⟨β, decode, set, hassign, hset⟩ := h
  rw [hassign, hassign]
  cases decode v with
  | error e => exact .failed e e
  | ok x => exact .done (hset x a b hab)

end RecordField

/-- A member of a record assigned to its field, or kept. -/
def assignMember (fields : List (RecordField α)) (keep : String → Json → α → α) (r : α)
    (member : String × Json) : Decoded α :=
  match fields.find? (·.name = member.1) with
  | some field => field.assign member.2 r
  | none => .ok (keep member.1 member.2 r)

lemma openRecord_obj (name : String) (fields : List (RecordField α))
    (keep : String → Json → α → α) (initial : α) (members : List (String × Json)) :
    openRecord name fields keep initial (.obj members) =
      members.foldlM (assignMember fields keep) initial := rfl

/-- What makes the order of members not matter for a record, up to a relation on records:
setters keep the relation and commute with one another and with keeping a member, and members
may be kept in either order. -/
structure Orderless (R : α → α → Prop) (fields : List (RecordField α))
    (keep : String → Json → α → α) : Prop where
  refl : ∀ r, R r r
  trans : ∀ r s t, R r s → R s t → R r t
  sets : ∀ f ∈ fields, f.SetsBy fun set => (∀ r s, R r s → R (set r) (set s)) ∧
    ∀ k v r, keep k v (set r) = set (keep k v r)
  commutes : fields.Pairwise RecordField.Commutes
  keeps : ∀ k v r s, R r s → R (keep k v r) (keep k v s)
  exchanges : ∀ k k', k ≠ k' → ∀ v v' r, R (keep k' v' (keep k v r)) (keep k v (keep k' v' r))

namespace Orderless

variable {fields : List (RecordField α)} {keep : String → Json → α → α}

lemma respects (h : Orderless R fields keep) (member : String × Json) {r s : α} (hrs : R r s) :
    Alike R (assignMember fields keep r member) (assignMember fields keep s member) := by
  rw [assignMember, assignMember]
  cases hfind : fields.find? (·.name = member.1) with
  | none => exact .done (h.keeps _ _ r s hrs)
  | some f =>
    obtain ⟨β, decode, set, hassign, hset⟩ := h.sets f (List.mem_of_find?_eq_some hfind)
    exact RecordField.SetsBy.alike ⟨β, decode, set, hassign, fun x => (hset x).1⟩ _ hrs

/-- A member may be kept before or after a field is assigned. -/
lemma exchange_kept (h : Orderless R fields keep) {f : RecordField α} (hf : f ∈ fields)
    (k : String) (v w : Json) (r : α) :
    f.assign w (keep k v r) = f.assign w r >>= fun r => .ok (keep k v r) := by
  obtain ⟨β, decode, set, hassign, hset⟩ := h.sets f hf
  rw [hassign, hassign]
  cases decode w with
  | error e => rfl
  | ok x => exact congrArg Except.ok ((hset x).2 k v r).symm

lemma exchange (h : Orderless R fields keep) (m m' : String × Json) (hne : m.1 ≠ m'.1) (r : α) :
    Alike R (assignMember fields keep r m >>= (assignMember fields keep · m'))
      (assignMember fields keep r m' >>= (assignMember fields keep · m)) := by
  simp only [assignMember]
  cases hfind : fields.find? (·.name = m.1) with
  | none =>
    cases hfind' : fields.find? (·.name = m'.1) with
    | none => exact .done (h.exchanges _ _ hne _ _ r)
    | some g =>
      exact (h.exchange_kept (List.mem_of_find?_eq_some hfind') m.1 m.2 m'.2 r).symm ▸
        .refl h.refl _
  | some f =>
    cases hfind' : fields.find? (·.name = m'.1) with
    | none =>
      exact (h.exchange_kept (List.mem_of_find?_eq_some hfind) m'.1 m'.2 m.2 r).symm ▸
        .refl h.refl _
    | some g =>
      have hname : f.name = m.1 := by simpa using List.find?_some hfind
      have hname' : g.name = m'.1 := by simpa using List.find?_some hfind'
      have hfg : f ≠ g := fun e => hne (hname.symm.trans (e ▸ hname'))
      have hcommutes : f.Commutes g := h.commutes.forall (List.mem_of_find?_eq_some hfind)
        (List.mem_of_find?_eq_some hfind') hfg
      exact (hcommutes m.2 m'.2 r).mono fun _ _ heq => heq ▸ h.refl _

/-- A record that is decoded from members in another order is the same up to the relation. -/
theorem foldlM_perm (h : Orderless R fields keep) {members members' : List (String × Json)}
    (perm : members.Perm members') (nodup : (Entries.keys members).Nodup) (initial : α) :
    Alike R (members.foldlM (assignMember fields keep) initial)
      (members'.foldlM (assignMember fields keep) initial) := by
  have distinct : members.Pairwise fun m m' => m.1 ≠ m'.1 := List.pairwise_map.1 nodup
  exact Alike.foldlM_perm h.refl h.trans (fun _ _ => Ne.symm) (fun m _ _ => h.respects m)
    h.exchange perm distinct (h.refl initial)

end Orderless

end Decoder

end OpenApiDoc
