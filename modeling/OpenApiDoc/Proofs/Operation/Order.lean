import OpenApiDoc.Document.InlineParameters
import OpenApiDoc.Operation.Decoding
import OpenApiDoc.Proofs.Schema.Keywords

/-!
# The order of members

The parts of operations are decoded member by member. Parameters and responses whose members
stand in another order are decoded to the same, except that a parameter keeps its unknown members
in the order in which they stood. These are a map from keys to values, so what counts is the
value of each key: that is `Parameter.Same`.
-/

namespace OpenApiDoc

open Decoder

/-! ### Schemas of inline keywords -/

namespace Schema

/-- A schema of inline keywords does not depend on their order. -/
theorem decode_perm {members members' : List (String × Json)} (perm : members.Perm members')
    (nodup : (Entries.keys members).Nodup)
    (inline : ∀ m ∈ members, m.1 ∈ Document.inlineKeywords) :
    Alike Eq (decode (.obj members)) (decode (.obj members')) := by
  have known : ∀ name ∈ Document.inlineKeywords, name ∈ knownKeywords := by decide
  refine alike_of_perm (fun _ => rfl) (fun _ _ _ => Eq.trans) (fun k _ _ => congrArg k.addTo)
    perm nodup fun m hm m' _ hne k k' hk hk' s => ?_
  obtain ⟨hname, hknown⟩ := name_of_keyword hk
  obtain ⟨hname', -⟩ := name_of_keyword hk'
  exact Keyword.addTo_comm k k' (by rwa [hname, hname']) (hknown (known _ (inline m hm))) s

end Schema

/-! ### Parameters -/

namespace Parameter

variable {p q r : Parameter} {set : Parameter → Parameter}

/-- The parameter with other members without a field. -/
def withExtra (p : Parameter) (extra : List (String × Json)) : Parameter := { p with extra }

@[simp] lemma withExtra_extra (p : Parameter) : p.withExtra p.extra = p := rfl

@[simp] lemma extra_withExtra (p : Parameter) (extra : List (String × Json)) :
    (p.withExtra extra).extra = extra := rfl

/-- Two parameters are the same, whatever the order of the members without a field. -/
structure Same (p q : Parameter) : Prop where
  fields : p.withExtra [] = q.withExtra []
  extra : ∀ key, Entries.get? key p.extra = Entries.get? key q.extra

lemma Same.refl (p : Parameter) : p.Same p := ⟨rfl, fun _ => rfl⟩

lemma Same.trans (h : p.Same q) (h' : q.Same r) : p.Same r :=
  ⟨h.fields.trans h'.fields, fun key => (h.extra key).trans (h'.extra key)⟩

/-- What is read off the fields is the same for both. -/
lemma Same.congr {α : Type} {f : Parameter → α} (h : p.Same q)
    (hf : ∀ p, f (p.withExtra []) = f p) : f p = f q := by
  rw [← hf p, ← hf q, h.fields]

/-- Keep a member that has no field. -/
def keep (key : String) (value : Json) (p : Parameter) : Parameter :=
  p.withExtra (Entries.insert key value p.extra)

/-- A change that neither touches the members without a field nor depends on them. -/
def KeepsExtra (set : Parameter → Parameter) : Prop :=
  ∀ p extra, set (p.withExtra extra) = (set p).withExtra extra

lemma KeepsExtra.extra_eq (h : KeepsExtra set) (p : Parameter) : (set p).extra = p.extra := by
  rw [← withExtra_extra p, h, extra_withExtra, withExtra_extra]

lemma KeepsExtra.same (h : KeepsExtra set) (hpq : p.Same q) : (set p).Same (set q) where
  fields := by rw [← h, ← h, hpq.fields]
  extra key := by rw [h.extra_eq, h.extra_eq, hpq.extra]

lemma KeepsExtra.keep_comm (h : KeepsExtra set) (key : String) (value : Json) (p : Parameter) :
    keep key value (set p) = set (keep key value p) := by
  rw [keep, keep, h, h.extra_eq]

lemma sets_fields : ∀ f ∈ fields, f.SetsBy KeepsExtra := by
  simp only [fields, List.forall_mem_cons, List.not_mem_nil, false_implies,
    implies_true, and_true]
  and_intros <;> exact ⟨_, _, _, fun _ _ => rfl, fun _ _ _ => rfl⟩

lemma commutes_fields : fields.Pairwise RecordField.Commutes := by
  simp only [fields, List.pairwise_cons, List.forall_mem_cons, List.not_mem_nil, false_implies,
    implies_true, List.Pairwise.nil, and_true]
  and_intros <;>
    exact RecordField.commutes_of_set (fun _ _ => rfl) (fun _ _ => rfl) fun _ _ _ => rfl

/-- The order of the members of a parameter does not matter. -/
lemma orderless : Orderless Same fields keep where
  refl := .refl
  trans _ _ _ := .trans
  sets f hf := by
    obtain ⟨β, decode, set, hassign, hset⟩ := sets_fields f hf
    exact ⟨β, decode, set, hassign, fun x => ⟨fun _ _ => (hset x).same, (hset x).keep_comm⟩⟩
  commutes := commutes_fields
  keeps key value p q h := by
    refine ⟨h.fields, fun k => ?_⟩
    simp only [keep, extra_withExtra, Entries.get?_insert, h.extra]
  exchanges key key' hne value value' p := by
    refine ⟨rfl, fun k => ?_⟩
    simp only [keep, extra_withExtra, Entries.get?_insert]
    split
    · next hk => rw [if_neg (hk ▸ hne)]
    · rfl

theorem decode_perm {members members' : List (String × Json)} (perm : members.Perm members')
    (nodup : (Entries.keys members).Nodup) :
    Alike Same (decode (.obj members)) (decode (.obj members')) :=
  orderless.foldlM_perm perm nodup {}

/-- Parameters whose last member is the schema are decoded alike if the schemas are. -/
lemma decode_schema {keywords keywords' : List (String × Json)} (members : List (String × Json))
    (h : Alike Eq (Schema.decode (.obj keywords)) (Schema.decode (.obj keywords'))) :
    Alike Same (decode (.obj (members ++ [("schema", .obj keywords)])))
      (decode (.obj (members ++ [("schema", .obj keywords')]))) := by
  rw [decode, openRecord_obj, openRecord_obj, List.foldlM_append, List.foldlM_append]
  refine (Alike.refl (fun _ => rfl) (members.foldlM (assignMember fields _) {})).bind ?_
  rintro p _ rfl
  rw [List.foldlM_cons, List.foldlM_cons]
  refine Alike.bind (R := Eq) ?_ fun a b hab => hab ▸ .refl .refl _
  refine (h.map fun s s' hs => congrArg some hs).map fun v v' hv => ?_
  rw [hv]

end Parameter

/-! ### Responses -/

namespace Response

lemma sets_fields : ∀ f ∈ fields, f.SetsBy fun _ => True := by
  simp only [fields, List.forall_mem_cons, List.not_mem_nil, false_implies,
    implies_true, and_true]
  and_intros <;> exact ⟨_, _, _, fun _ _ => rfl, fun _ => trivial⟩

lemma commutes_fields : fields.Pairwise RecordField.Commutes := by
  simp only [fields, List.pairwise_cons, List.forall_mem_cons, List.not_mem_nil, false_implies,
    implies_true, List.Pairwise.nil, and_true]
  and_intros <;>
    exact RecordField.commutes_of_set (fun _ _ => rfl) (fun _ _ => rfl) fun _ _ _ => rfl

/-- The order of the members of a response does not matter. -/
lemma orderless : Orderless Eq fields fun _ _ r => r where
  refl _ := rfl
  trans _ _ _ := Eq.trans
  sets f hf := by
    obtain ⟨β, decode, set, hassign, -⟩ := sets_fields f hf
    exact ⟨β, decode, set, hassign, fun x => ⟨fun _ _ => congrArg (set x), fun _ _ _ => rfl⟩⟩
  commutes := commutes_fields
  keeps _ _ _ _ := id
  exchanges _ _ _ _ _ _ := rfl

theorem decode_perm {members members' : List (String × Json)} (perm : members.Perm members')
    (nodup : (Entries.keys members).Nodup) :
    Alike Eq (decode (.obj members)) (decode (.obj members')) :=
  orderless.foldlM_perm perm nodup {}

end Response

/-! ### Operations -/

namespace OperationBody

variable {o o' : OperationBody} {set : OperationBody → OperationBody}

/-- The operation with other parameters. -/
def withParameters (o : OperationBody) (parameters : List Parameter) : OperationBody :=
  { o with parameters }

@[simp] lemma withParameters_parameters (o : OperationBody) :
    o.withParameters o.parameters = o := rfl

@[simp] lemma parameters_withParameters (o : OperationBody) (parameters : List Parameter) :
    (o.withParameters parameters).parameters = parameters := rfl

/-- Two operations are the same but for the order of members in their parameters. -/
structure Same (o o' : OperationBody) : Prop where
  fields : o.withParameters [] = o'.withParameters []
  parameters : List.Forall₂ Parameter.Same o.parameters o'.parameters

lemma Same.refl (o : OperationBody) : o.Same o :=
  ⟨rfl, List.forall₂_same.2 fun p _ => .refl p⟩

/-- What is read off the fields other than the parameters is the same for both. -/
lemma Same.congr {α : Type} {f : OperationBody → α} (h : o.Same o')
    (hf : ∀ o, f (o.withParameters []) = f o) : f o = f o' := by
  rw [← hf o, ← hf o', h.fields]

/-- A change that neither touches the parameters nor depends on them. -/
def KeepsParameters (set : OperationBody → OperationBody) : Prop :=
  ∀ o parameters, set (o.withParameters parameters) = (set o).withParameters parameters

lemma KeepsParameters.same (h : KeepsParameters set) (hoo' : o.Same o') :
    (set o).Same (set o') where
  fields := by rw [← h, ← h, hoo'.fields]
  parameters := by
    rw [← withParameters_parameters o, ← withParameters_parameters o', h, h,
      parameters_withParameters, parameters_withParameters]
    exact hoo'.parameters

lemma sets_fields : ∀ f ∈ fields, f.name ≠ "parameters" → f.SetsBy KeepsParameters := by
  simp only [fields, List.forall_mem_cons, List.not_mem_nil, false_implies,
    implies_true, and_true]
  and_intros <;> intro hname <;>
    first
    | exact absurd rfl hname
    | exact ⟨_, _, _, fun _ _ => rfl, fun _ _ _ => rfl⟩

/-- Two members of operations have one key and values that are decoded alike. -/
structure MemberAlike (m m' : String × Json) : Prop where
  key : m.1 = m'.1
  parameters : m.1 = "parameters" → Alike (List.Forall₂ Parameter.Same)
    (list Parameter.decode m.2) (list Parameter.decode m'.2)
  responses : m.1 = "responses" → Alike Eq (decodeResponses m.2) (decodeResponses m'.2)
  others : m.1 ≠ "parameters" → m.1 ≠ "responses" → m.2 = m'.2

lemma MemberAlike.assign {m m' : String × Json} (h : MemberAlike m m') (hoo' : o.Same o') :
    Alike Same (assignMember fields (fun _ _ r => r) o m)
      (assignMember fields (fun _ _ r => r) o' m') := by
  obtain ⟨key, value⟩ := m
  obtain ⟨key', value'⟩ := m'
  obtain rfl : key = key' := h.key
  by_cases hparameters : key = "parameters"
  · subst hparameters
    refine (h.parameters rfl).map fun ps ps' hps => ?_
    exact ⟨hoo'.congr (f := fun o => o.withParameters []) fun _ => rfl, hps⟩
  by_cases hresponses : key = "responses"
  · subst hresponses
    refine (h.responses rfl).map fun rs rs' hrs => ?_
    subst hrs
    have hset : KeepsParameters fun o => { o with responses := rs } := fun _ _ => rfl
    exact hset.same hoo'
  obtain rfl : value = value' := h.others hparameters hresponses
  rw [assignMember, assignMember]
  cases hfind : fields.find? (·.name = key) with
  | none => exact .done hoo'
  | some f =>
    have hname : f.name = key := by simpa using List.find?_some hfind
    obtain ⟨β, decode, set, hassign, hset⟩ :=
      sets_fields f (List.mem_of_find?_eq_some hfind) (hname ▸ hparameters)
    exact RecordField.SetsBy.alike
      ⟨β, decode, set, hassign, fun x _ _ => (hset x).same⟩ value hoo'

/-- Operations whose members are decoded alike are decoded alike. -/
theorem decode_alike {members members' : List (String × Json)}
    (h : List.Forall₂ MemberAlike members members') :
    Alike Same (decode (.obj members)) (decode (.obj members')) :=
  Alike.foldlM h (fun _ _ hm _ _ => hm.assign) (.refl {})

end OperationBody

end OpenApiDoc
