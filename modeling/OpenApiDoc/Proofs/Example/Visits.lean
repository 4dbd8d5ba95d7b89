import Mathlib.Tactic.Common
import OpenApiDoc.Definitions
import OpenApiDoc.Example.Visits

/-!
# Visits and limits

Entering a definition counts one visit more, as long as the count of a byte is not exhausted, and
is refused when the limit is reached. What remains of the limits of all definitions goes down
with every visit that changes a count.

Over any sequence of entries the counts are those of the names in it. A full byte is the
exception: it stays at 255, so the limit of 255 is never gone beyond, and `Visits.enterAll_exact`
says what is left of the bound then.
-/

namespace OpenApiDoc.Example.Visits

variable {visits inner : Visits} {limit : Limit} {name : String}

/-- No definition was entered more often than allowed. -/
def Within (visits : Visits) (limit : Limit) : Prop := ∀ name, visits.count name ≤ limit.val

@[simp] lemma count_empty (name : String) : ({} : Visits).count name = 0 := rfl

lemma within_empty (limit : Limit) : ({} : Visits).Within limit := fun _ => Nat.zero_le _

lemma count_enter (h : visits.enter name limit = some inner) (n : String) :
    inner.count n = if n = name then min (visits.count name + 1) 255 else visits.count n := by
  rw [enter] at h
  split at h
  · cases h
  · cases h
    simp only [count, Entries.get?_insert, eq_comm (a := n)]
    split <;> rfl

lemma count_le_of_enter (h : visits.enter name limit = some inner) :
    inner.count name ≤ limit.val := by
  have hcount := count_enter h name
  rw [enter] at h
  split at h
  · cases h
  · rw [hcount, if_pos rfl]
    omega

lemma Within.enter (hv : visits.Within limit) (h : visits.enter name limit = some inner) :
    inner.Within limit := by
  intro n
  by_cases hn : n = name
  · rw [hn]
    exact count_le_of_enter h
  · rw [count_enter h, if_neg hn]
    exact hv n

/-- A definition is refused if it was entered as often as allowed, unless the limit is that of a
byte. -/
lemma enter_eq_none_iff (hlimit : limit.val ≤ 254) :
    visits.enter name limit = none ↔ limit.val ≤ visits.count name := by
  rw [enter]
  split <;> simp <;> omega

lemma enter_of_lt (h : visits.count name < limit.val) :
    ∃ inner, visits.enter name limit = some inner := by
  rw [enter]
  rw [if_neg (by omega)]
  exact ⟨_, rfl⟩

/-- Below the limit of a byte, entering counts one visit more. -/
lemma count_enter_of_le (hlimit : limit.val ≤ 254)
    (h : visits.enter name limit = some inner) (n : String) :
    inner.count n = visits.count n + if n = name then 1 else 0 := by
  have hlt : ¬ limit.val ≤ visits.count name := fun hle => by
    rw [(enter_eq_none_iff hlimit).2 hle] at h
    cases h
  rw [count_enter h]
  by_cases hn : n = name
  · subst hn
    simp only [if_true]
    omega
  · simp [hn]

lemma ne_of_enter (hlimit : limit.val ≤ 254) (h : visits.enter name limit = some inner) :
    inner ≠ visits := by
  rintro rfl
  have hcount := count_enter_of_le hlimit h name
  rw [if_pos rfl] at hcount
  omega

/-! ### What remains of the limits -/

/-- How often definitions of these names may still be entered. -/
def remaining (visits : Visits) (limit : Limit) : List String → Nat
  | [] => 0
  | name :: rest => (limit.val - visits.count name) + visits.remaining limit rest

lemma remaining_le (visits : Visits) (limit : Limit) (names : List String) :
    visits.remaining limit names ≤ limit.val * names.length := by
  induction names with
  | nil => simp [remaining]
  | cons name rest ih =>
    simp only [remaining, List.length_cons, Nat.mul_succ] at ih ⊢
    omega

lemma remaining_le_of_count_le {names : List String}
    (h : ∀ n, visits.count n ≤ inner.count n) :
    inner.remaining limit names ≤ visits.remaining limit names := by
  induction names with
  | nil => simp [remaining]
  | cons n rest ih =>
    have := h n
    simp only [remaining]
    omega

lemma remaining_lt_of_count_lt {names : List String} (h : ∀ n, visits.count n ≤ inner.count n)
    (hname : name ∈ names) (hlt : visits.count name < inner.count name)
    (hle : inner.count name ≤ limit.val) :
    inner.remaining limit names < visits.remaining limit names := by
  induction names with
  | nil => cases hname
  | cons n rest ih =>
    have hn := h n
    have hrest : inner.remaining limit rest ≤ visits.remaining limit rest :=
      remaining_le_of_count_le h
    simp only [remaining]
    rcases List.mem_cons.1 hname with rfl | hmem
    · omega
    · have := ih hmem
      omega

/-- Entering a definition changes nothing or leaves less of the limits. -/
lemma eq_or_remaining_lt_of_enter {names : List String} (hv : visits.Within limit)
    (h : visits.enter name limit = some inner) (hname : name ∈ names) :
    inner = visits ∨ inner.remaining limit names < visits.remaining limit names := by
  have hcount := count_enter h
  have hle := count_le_of_enter h
  by_cases hbyte : visits.count name < 255
  · refine Or.inr (remaining_lt_of_count_lt (fun n => ?_) hname ?_ hle)
    · rw [hcount]
      split
      · next hn =>
        rw [hn]
        omega
      · exact Nat.le_refl _
    · rw [hcount, if_pos rfl]
      omega
  · -- the count stands at the limit of a byte, so writing it again changes nothing
    have hfull : visits.count name = 255 := by
      have := hv name
      have := limit.le
      omega
    obtain ⟨value, hget⟩ : ∃ value, Entries.get? name visits.counts = some value := by
      rw [count] at hfull
      rcases hget : Entries.get? name visits.counts with _ | value
      · simp [hget] at hfull
      · exact ⟨value, rfl⟩
    have hvalue : value = 255 := by simpa [count, hget] using hfull
    rw [enter, hfull] at h
    split at h
    · cases h
    · cases h
      have hinsert : Entries.insert name 255 visits.counts = visits.counts :=
        Entries.insert_of_get? (hvalue ▸ hget)
      exact Or.inl (congrArg Visits.mk hinsert)

/-! ### Sequences of entries -/

variable {visits inner : Visits} {limit : Limit} {names : List String}

/-- Enter definitions one inside the other; none once one of them is refused. -/
def enterAll (visits : Visits) (limit : Limit) : List String → Option Visits
  | [] => some visits
  | name :: names => (visits.enter name limit).bind fun inner => inner.enterAll limit names

/-- A byte counts the entries of a definition until it is full. -/
lemma count_enterAll (h : visits.enterAll limit names = some inner) (hv : visits.Within limit)
    (n : String) : inner.count n = min (visits.count n + names.count n) 255 := by
  induction names generalizing visits with
  | nil =>
    cases h
    have hle : inner.count n ≤ 255 := Nat.le_trans (hv n) limit.le
    rw [List.count_nil]
    omega
  | cons name names ih =>
    obtain ⟨next, hnext, hrest⟩ := Option.bind_eq_some_iff.1 h
    have hcount := count_enter hnext n
    rw [ih hrest (hv.enter hnext), hcount]
    by_cases hn : n = name
    · subst hn
      rw [if_pos rfl, List.count_cons_self]
      omega
    · rw [if_neg hn, List.count_cons_of_ne (Ne.symm hn)]

lemma Within.enterAll (hv : visits.Within limit) (h : visits.enterAll limit names = some inner) :
    inner.Within limit := by
  induction names generalizing visits with
  | nil =>
    cases h
    exact hv
  | cons name names ih =>
    obtain ⟨next, hnext, hrest⟩ := Option.bind_eq_some_iff.1 h
    exact ih (hv.enter hnext) hrest

/-- Under the limit of a byte nothing is refused. -/
lemma enter_of_eq (hlimit : limit.val = 255) (visits : Visits) (name : String) :
    ∃ inner, visits.enter name limit = some inner := by
  rw [enter, if_neg (by omega)]
  exact ⟨_, rfl⟩

lemma isSome_enterAll_of_eq (hlimit : limit.val = 255) :
    (visits.enterAll limit names).isSome := by
  induction names generalizing visits with
  | nil => rfl
  | cons name names ih =>
    obtain ⟨next, hnext⟩ := enter_of_eq hlimit visits name
    rw [enterAll, hnext, Option.bind_some]
    exact ih

/-- Below the limit of a byte all entries succeed exactly if none of the definitions is entered
more often than allowed. -/
lemma isSome_enterAll_iff (hlimit : limit.val ≤ 254) (hv : visits.Within limit) :
    (visits.enterAll limit names).isSome ↔
      ∀ n, visits.count n + names.count n ≤ limit.val := by
  induction names generalizing visits with
  | nil => simpa [enterAll, Within] using hv
  | cons name names ih =>
    rw [enterAll]
    rcases hnext : visits.enter name limit with _ | next
    · have hfull := (enter_eq_none_iff hlimit).1 hnext
      refine iff_of_false (by simp) fun h => ?_
      have := h name
      rw [List.count_cons_self] at this
      omega
    · have hcount : ∀ n, next.count n + names.count n =
          visits.count n + (name :: names).count n := by
        intro n
        rw [count_enter_of_le hlimit hnext, List.count_cons]
        simp only [beq_iff_eq, eq_comm (a := name)]
        omega
      rw [Option.bind_some, ih (hv.enter hnext)]
      simp only [hcount]

/-- After any entries that succeed, a definition counts as often as it was entered, or
255 times if that is more, and never more often than allowed. It is refused exactly if it
was entered as often as allowed; only under the limit of a byte is it never refused,
however often it was entered. -/
theorem enterAll_exact (limit : Limit) (names : List String) :
    ((({} : Visits).enterAll limit names).isSome ↔
      limit.val = 255 ∨ ∀ name, names.count name ≤ limit.val) ∧
    ∀ visits, ({} : Visits).enterAll limit names = some visits → ∀ name,
      visits.count name ≤ limit.val ∧
      visits.count name = min (names.count name) 255 ∧
      (limit.val ≤ 254 → visits.count name = names.count name) ∧
      (visits.enter name limit = none ↔ limit.val ≤ 254 ∧ names.count name = limit.val) := by
  have hempty := within_empty limit
  have hbyte : limit.val = 255 ∨ limit.val ≤ 254 := by
    have := limit.le
    omega
  have hiff : (({} : Visits).enterAll limit names).isSome ↔
      limit.val = 255 ∨ ∀ name, names.count name ≤ limit.val := by
    rcases hbyte with hfull | hlimit
    · exact iff_of_true (isSome_enterAll_of_eq hfull) (.inl hfull)
    · rw [isSome_enterAll_iff hlimit hempty]
      simp only [count_empty, Nat.zero_add]
      exact ⟨.inr, fun h => h.resolve_left (by omega)⟩
  refine ⟨hiff, fun visits h name => ?_⟩
  have hwithin := hempty.enterAll h name
  have hcount : visits.count name = min (names.count name) 255 := by
    rw [count_enterAll h hempty, count_empty, Nat.zero_add]
  have hallowed := hiff.1 (Option.isSome_iff_exists.2 ⟨visits, h⟩)
  refine ⟨hwithin, hcount, fun hlimit => ?_, ?_⟩
  · have := hallowed.resolve_left (by omega) name
    omega
  · rcases hbyte with hfull | hlimit
    · obtain ⟨inner, hinner⟩ := enter_of_eq hfull visits name
      exact iff_of_false (by simp [hinner]) (by omega)
    · rw [enter_eq_none_iff hlimit]
      have := hallowed.resolve_left (by omega) name
      omega

theorem enterAll_exact_standard :
    ∃ visits, ({} : Visits).enterAll .standard ["Node", "Leaf", "Node"] = some visits ∧
      visits.count "Node" = 2 ∧ visits.count "Leaf" = 1 ∧
      visits.enter "Node" .standard = none ∧ visits.enter "Leaf" .standard ≠ none := by
  refine ⟨_, rfl, ?_⟩
  have h := (enterAll_exact .standard ["Node", "Leaf", "Node"]).2 _ rfl
  exact ⟨(h "Node").2.1, (h "Leaf").2.1, (h "Node").2.2.2.2 (by decide),
    fun hnone => absurd ((h "Leaf").2.2.2.1 hnone) (by decide)⟩

/-- The limit that a byte can hold. -/
def fullByte : Limit := { val := 255 }

/-- Under the limit of 255 a definition is entered 256 times, and counts 255 times. -/
theorem fullByte_unbounded :
    ∃ visits, ({} : Visits).enterAll fullByte (List.replicate 256 "Node") = some visits ∧
      (List.replicate 256 "Node").count "Node" = 256 ∧ visits.count "Node" = 255 ∧
      (List.replicate 256 "Node").count "Node" ≠ visits.count "Node" := by
  have hsome : (({} : Visits).enterAll fullByte (List.replicate 256 "Node")).isSome :=
    isSome_enterAll_of_eq rfl
  obtain ⟨visits, h⟩ := Option.isSome_iff_exists.1 hsome
  have hcount := count_enterAll h (within_empty fullByte) "Node"
  rw [List.count_replicate_self, count_empty] at hcount
  refine ⟨visits, h, List.count_replicate_self, hcount, ?_⟩
  rw [List.count_replicate_self, hcount]
  decide

end OpenApiDoc.Example.Visits
