import Mathlib.Tactic.Common
import OpenApiDoc.Example.Generator

/-!
# Drafts

A draft is finished or ran out of depth, and has notices in either case. The lemmas say what its
result is after each operation on drafts.
-/

namespace OpenApiDoc.Example.Draft

variable {α β : Type}

/-- The result of a draft, if it is finished. -/
def result (x : Draft α) : Option α := x.run.value

/-- The notices of a draft. -/
def notices (x : Draft α) : List Notice := x.run.notices

/-- A finished draft. -/
def done (value : α) (notices : List Notice) : Draft α := OptionT.mk ⟨some value, notices⟩

lemma ext {x y : Draft α} (result : x.result = y.result) (notices : x.notices = y.notices) :
    x = y :=
  OptionT.ext (Noted.ext result notices)

@[simp] lemma result_done (a : α) (notices : List Notice) :
    (done a notices).result = some a := rfl

@[simp] lemma notices_done (a : α) (notices : List Notice) :
    (done a notices).notices = notices := rfl

@[simp] lemma result_pure (a : α) : (pure a : Draft α).result = some a := rfl

@[simp] lemma notices_pure (a : α) : (pure a : Draft α).notices = [] := rfl

@[simp] lemma result_say (notice : Notice) : (say notice).result = some () := rfl

@[simp] lemma notices_say (notice : Notice) : (say notice).notices = [notice] := rfl

@[simp] lemma result_ofNoted (x : Noted α) : (ofNoted x).result = some x.value := rfl

@[simp] lemma notices_ofNoted (x : Noted α) : (ofNoted x).notices = x.notices := by
  simp [notices, ofNoted]

@[simp] lemma result_bind (x : Draft α) (f : α → Draft β) :
    (x >>= f).result = x.result.bind fun a => (f a).result := by
  simp only [result, OptionT.run_bind, Option.elimM, Noted.value_bind]
  cases x.run.value <;> rfl

lemma notices_bind {x : Draft α} {a : α} (h : x.result = some a) (f : α → Draft β) :
    (x >>= f).notices = x.notices ++ (f a).notices := by
  simp only [result] at h
  simp only [notices, OptionT.run_bind, Noted.notices_bind, h, Option.elimM, Option.elim]

@[simp] lemma result_map (f : α → β) (x : Draft α) : (f <$> x).result = x.result.map f := by
  rw [map_eq_pure_bind, result_bind]
  cases x.result <;> rfl

lemma notices_map (f : α → β) {x : Draft α} {a : α} (h : x.result = some a) :
    (f <$> x).notices = x.notices := by
  rw [map_eq_pure_bind, notices_bind h, notices_pure, List.append_nil]

lemma map_done (f : α → β) (a : α) (notices : List Notice) :
    f <$> done a notices = done (f a) notices :=
  ext (by simp) (by rw [notices_map f (result_done a notices)]; simp)

lemma done_bind (a : α) (notices : List Notice) (f : α → Draft β) {b : β} {more : List Notice}
    (h : f a = done b more) : (done a notices >>= f) = done b (notices ++ more) :=
  ext (by simp [h]) (by rw [notices_bind (result_done a notices), h]; simp)

lemma say_bind (notice : Notice) (f : Unit → Draft β) {b : β} {more : List Notice}
    (h : f () = done b more) : (say notice >>= f) = done b (notice :: more) :=
  done_bind () [notice] f h

/-- Only the notices of a value that needs no depth are left to be made. -/
lemma ofNoted_bind (x : Noted α) (f : α → Draft β) :
    (ofNoted x >>= f) = (done () x.notices >>= fun _ => f x.value) := by
  refine ext (by simp) ?_
  rw [notices_bind (result_ofNoted x), notices_bind (result_done () _), notices_ofNoted,
    notices_done]

/-! ### Lists of drafts -/

lemma isSome_mapM {f : α → Draft β} {list : List α} :
    (list.mapM f).result.isSome ↔ ∀ a ∈ list, (f a).result.isSome := by
  induction list with
  | nil => simp
  | cons a rest ih =>
    rw [List.forall_mem_cons, ← ih, List.mapM_cons, result_bind]
    cases (f a).result <;> simp

/-- The drafts of a list are finished with one result for each member, in order. -/
lemma forall₂_of_mapM {f : α → Draft β} {list : List α} {results : List β}
    (h : (list.mapM f).result = some results) :
    List.Forall₂ (fun a b => (f a).result = some b) list results := by
  induction list generalizing results with
  | nil =>
    cases h
    exact .nil
  | cons a rest ih =>
    simp only [List.mapM_cons, result_bind, result_pure, Option.bind_eq_some_iff] at h
    obtain ⟨b, hb, bs, hbs, h⟩ := h
    cases h
    exact .cons hb (ih hbs)

/-- What the drafts of a list keep of its members, the results keep in order. -/
lemma map_of_mapM {γ : Type} {f : α → Draft β} {p : β → γ} {q : α → γ}
    (hf : ∀ a b, (f a).result = some b → p b = q a) {list : List α} {results : List β}
    (h : (list.mapM f).result = some results) : results.map p = list.map q := by
  have hall := forall₂_of_mapM h
  clear h
  induction hall with
  | nil => rfl
  | cons hab _ ih => rw [List.map_cons, List.map_cons, hf _ _ hab, ih]

lemma mapM_congr {f g : α → Draft β} {list : List α} (h : ∀ a ∈ list, f a = g a) :
    list.mapM f = list.mapM g := by
  induction list with
  | nil => rfl
  | cons a rest ih =>
    rw [List.mapM_cons, List.mapM_cons, h a List.mem_cons_self,
      ih fun b hb => h b (List.mem_cons_of_mem _ hb)]

lemma mapM_done {f : α → Draft β} {value : α → β} {notices : α → List Notice} {list : List α}
    (h : ∀ a ∈ list, f a = done (value a) (notices a)) :
    list.mapM f = done (list.map value) (list.flatMap notices) := by
  induction list with
  | nil => rfl
  | cons a rest ih =>
    have hrest := ih fun b hb => h b (List.mem_cons_of_mem _ hb)
    rw [List.mapM_cons, h a List.mem_cons_self, hrest, List.map_cons, List.flatMap_cons]
    refine done_bind _ _ _ ?_
    exact (map_eq_pure_bind _ _).symm.trans (map_done _ _ _)

end OpenApiDoc.Example.Draft
