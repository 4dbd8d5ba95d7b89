import Mathlib.Tactic.Common
import OpenApiDoc.Text.Replace

/-!
# What is replaced in a text

A replacement goes through a text piece by piece: a piece without the first character of the
pattern stays, and an occurrence of the pattern is replaced as a whole.
-/

namespace OpenApiDoc.Text

variable {pattern replacement rest : List Char}

/-- The rest of an occurrence is passed over. -/
lemma replaceFrom_append (skipped rest : List Char) :
    replaceFrom pattern replacement skipped.length (skipped ++ rest) =
      replace pattern replacement rest := by
  induction skipped with
  | nil => rfl
  | cons c skipped ih => exact ih

lemma replace_cons_of_not_begins {c : Char} (h : ¬ pattern <+: c :: rest) :
    replace pattern replacement (c :: rest) = c :: replace pattern replacement rest := by
  have hbegins : pattern.isPrefixOf (c :: rest) = false := by
    rwa [Bool.eq_false_iff, ne_eq, List.isPrefixOf_iff_prefix]
  rw [replace, replaceFrom, hbegins]
  rfl

lemma replace_cons_of_begins {c : Char} (h : pattern <+: c :: rest) :
    replace pattern replacement (c :: rest) =
      replacement ++ replaceFrom pattern replacement (pattern.length - 1) rest := by
  rw [replace, replaceFrom, List.isPrefixOf_iff_prefix.2 h]
  rfl

/-- A piece without the first character of the pattern stays as it is. -/
lemma replace_append_of_not_mem {c : Char} {tail before : List Char} (h : c ∉ before) :
    replace (c :: tail) replacement (before ++ rest) =
      before ++ replace (c :: tail) replacement rest := by
  induction before with
  | nil => rfl
  | cons b before ih =>
    rw [List.mem_cons, not_or] at h
    have hbegins : ¬ c :: tail <+: b :: (before ++ rest) := by
      rw [List.cons_prefix_cons]
      exact fun heq => h.1 heq.1
    rw [List.cons_append, replace_cons_of_not_begins hbegins, ih h.2, List.cons_append]

/-- An occurrence of the pattern is replaced. -/
lemma replace_append_self {c : Char} {tail : List Char} :
    replace (c :: tail) replacement (c :: tail ++ rest) =
      replacement ++ replace (c :: tail) replacement rest := by
  have hbegins : c :: tail <+: c :: (tail ++ rest) := List.prefix_append (c :: tail) rest
  rw [List.cons_append, replace_cons_of_begins hbegins]
  exact congrArg (replacement ++ ·) (replaceFrom_append tail rest)

/-- Nothing is in the outcome but what was in the text or is put into it. -/
lemma mem_or_mem_of_mem_replaceFrom {c : Char} {skip : Nat} {text : List Char}
    (h : c ∈ replaceFrom pattern replacement skip text) : c ∈ replacement ∨ c ∈ text := by
  induction text generalizing skip with
  | nil => cases h
  | cons b text ih =>
    cases skip with
    | succ skip => exact (ih h).imp_right (List.mem_cons_of_mem b)
    | zero =>
      rw [replaceFrom] at h
      split at h
      · rcases List.mem_append.1 h with h | h
        · exact .inl h
        · exact (ih h).imp_right (List.mem_cons_of_mem b)
      · rcases List.mem_cons.1 h with rfl | h
        · exact .inr List.mem_cons_self
        · exact (ih h).imp_right (List.mem_cons_of_mem b)

/-- A pattern does not reach into a piece without its last character. -/
lemma prefix_of_prefix_append {inner before : List Char} {z : Char} (hz : z ∉ rest)
    (h : inner ++ [z] <+: before ++ rest) : inner ++ [z] <+: before := by
  refine (List.prefix_or_prefix_of_prefix h (List.prefix_append before rest)).elim id ?_
  rintro ⟨reached, hreached⟩
  rcases List.eq_nil_or_concat reached with rfl | ⟨init, last, rfl⟩
  · rw [List.append_nil] at hreached
    subst hreached
    exact List.prefix_rfl
  · rw [← hreached, List.prefix_append_right_inj] at h
    rw [List.concat_eq_append, ← List.append_assoc, List.append_singleton_inj] at hreached
    exact absurd (h.subset (by simp [hreached.2])) hz

/-- A piece at the end without the first and the last character of the pattern stays as it is. -/
lemma replace_append_of_not_mem_ends {a z : Char} {inner : List Char}
    (hpattern : pattern = a :: inner ++ [z]) (ha : a ∉ rest) (hz : z ∉ rest)
    (before : List Char) :
    replace pattern replacement (before ++ rest) =
      replace pattern replacement before ++ rest := by
  -- the text may begin within an occurrence that is replaced already
  have h : ∀ skip ≤ before.length, replaceFrom pattern replacement skip (before ++ rest) =
      replaceFrom pattern replacement skip before ++ rest := by
    induction before with
    | nil =>
      intro skip hskip
      obtain rfl := Nat.le_zero.1 hskip
      have hrest : replace (a :: (inner ++ [z])) replacement (rest ++ []) = rest ++ [] :=
        replace_append_of_not_mem ha
      rw [← List.cons_append, ← hpattern, List.append_nil] at hrest
      exact hrest
    | cons b before ih =>
      intro skip hskip
      cases skip with
      | succ skip => exact ih skip (Nat.le_of_succ_le_succ hskip)
      | zero =>
        by_cases hbegins : pattern <+: b :: before
        · have hwhole := hbegins.trans (List.prefix_append (b :: before) rest)
          have hlength : pattern.length - 1 ≤ before.length :=
            Nat.sub_le_of_le_add hbegins.length_le
          calc replace pattern replacement (b :: (before ++ rest))
            _ = replacement ++ replaceFrom pattern replacement (pattern.length - 1)
                  (before ++ rest) := replace_cons_of_begins hwhole
            _ = replacement ++ (replaceFrom pattern replacement (pattern.length - 1) before ++
                  rest) := by rw [ih _ hlength]
            _ = replace pattern replacement (b :: before) ++ rest := by
              rw [replace_cons_of_begins hbegins, List.append_assoc]
        · have hwhole : ¬ pattern <+: b :: (before ++ rest) := by
            rw [← List.cons_append, hpattern]
            rw [hpattern] at hbegins
            exact fun h => hbegins (prefix_of_prefix_append hz h)
          calc replace pattern replacement (b :: (before ++ rest))
            _ = b :: replace pattern replacement (before ++ rest) :=
              replace_cons_of_not_begins hwhole
            _ = b :: (replace pattern replacement before ++ rest) := by
              rw [replace, ih 0 (Nat.zero_le _), ← replace]
            _ = replace pattern replacement (b :: before) ++ rest := by
              rw [replace_cons_of_not_begins hbegins, List.cons_append]
  exact h 0 (Nat.zero_le _)

end OpenApiDoc.Text
