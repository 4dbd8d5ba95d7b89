import Mathlib.Data.List.Infix
import OpenApiDoc.Proofs.Text.Percent
import OpenApiDoc.Proofs.Text.Replace
import OpenApiDoc.Reference

/-!
# Segments of pointers

A segment of a pointer spells a name with escapes of two layers. Within the pointer `~1`
stands for a slash and `~0` for a tilde; and as the pointer is written into an address, any of
its characters may be written with percent escapes there. To read the address first is to undo
the second layer first.

`Reference.decodeSegment` undoes the layers the other way round. Both orders read the same,
unless a tilde escape is written with percent escapes itself: then it is left as it is, and the
name is longer than it should be.
-/

namespace OpenApiDoc

namespace Text.Percent

variable {c d high low : Char} {octet n : Nat} {text rest rest' : List Char}
  {underWay : Option Utf8.Partial}

/-! ### Characters that are written as escapes -/

/-- The text is a character, written as itself or as an escape, and then the rest. -/
def BeginsWith (c : Char) (text rest : List Char) : Prop :=
  text = c :: rest ∨ BeginsWithEscape text c.toNat rest

lemma eq_of_hexValue? (h : hexValue? octet = some n) :
    n < 10 ∧ octet = 0x30 + n ∨ 10 ≤ n ∧ n < 16 ∧ (octet = 0x37 + n ∨ octet = 0x57 + n) := by
  rw [hexValue?] at h
  split_ifs at h <;> cases h <;> omega

lemma BeginsWithEscape.unique {octet' : Nat} (h : BeginsWithEscape text octet rest)
    (h' : BeginsWithEscape text octet' rest') : octet = octet' ∧ rest = rest' := by
  obtain ⟨high, low, n, m, rfl, hhigh, hlow, rfl⟩ := h
  obtain ⟨_, _, _, _, heq, hhigh', hlow', rfl⟩ := h'
  cases heq
  cases hhigh.symm.trans hhigh'
  cases hlow.symm.trans hlow'
  exact ⟨rfl, rfl⟩

/-- A character that can be written as itself is written in one way only. -/
lemma BeginsWith.unique (h : BeginsWith c text rest) (hc : c ≠ '%')
    (h' : BeginsWith c text rest') : rest = rest' := by
  rcases h with rfl | h <;> rcases h' with h' | h'
  · exact (List.cons.inj h').2
  · exact absurd h' (not_beginsWithEscape hc _ _)
  · exact absurd h (h' ▸ not_beginsWithEscape hc _ _)
  · exact (h.unique h').2

lemma BeginsWith.length_lt (h : BeginsWith c text rest) : rest.length < text.length := by
  rcases h with rfl | h
  · exact Nat.lt_succ_self _
  · exact h.length_lt

/-- An ASCII character is read, however it is written, behind what it cuts short. -/
lemma BeginsWith.decodeFrom (h : BeginsWith c text rest) (continues : Utf8.Continues underWay)
    (ascii : c.toNat < 0x80) (hc : c ≠ '%') :
    decodeFrom underWay text = Utf8.cutShort underWay ++ c :: decodeFrom none rest := by
  rcases h with rfl | h
  · exact decodeFrom_cons continues (not_beginsWithEscape hc)
  · exact decodeFrom_of_ascii continues h ascii

/-- Only where an ASCII character is written is it what is read first. -/
lemma exists_beginsWith_of_head? (h : c ∈ (decodeFrom none text).head?) (hzero : 0 < c.toNat)
    (ascii : c.toNat < 0x80) : ∃ rest, BeginsWith c text rest := by
  rcases text with _ | ⟨b, tail⟩
  · cases h
  by_cases hescape : ∃ octet rest, BeginsWithEscape (b :: tail) octet rest
  · obtain ⟨octet, rest, hescape⟩ := hescape
    rw [Percent.decodeFrom, hescape.decodeOctets] at h
    obtain rfl := Utf8.octet_eq_of_head?_decodeFrom h hzero ascii
    exact ⟨rest, .inr hescape⟩
  · rw [decodeFrom_cons Utf8.continues_none fun octet rest h => hescape ⟨octet, rest, h⟩] at h
    cases h
    exact ⟨tail, .inl rfl⟩

end Text.Percent

namespace Reference

open Text Text.Percent

variable {c d e : Char} {octet : Nat} {text segment rest tail middle : List Char}
  {underWay : Option Utf8.Partial}

/-! ### Tilde escapes -/

lemma unescape_cons_of_ne (hc : c ≠ '~') (rest : List Char) :
    unescape (c :: rest) = c :: unescape rest := by
  rw [unescape.eq_def]
  split
  · next heq => cases heq
  · next heq => exact absurd (List.cons.inj heq).1 hc
  · next heq => exact absurd (List.cons.inj heq).1 hc
  · next heq => cases heq; rfl

lemma unescape_append_of_not_mem (h : '~' ∉ text) (rest : List Char) :
    unescape (text ++ rest) = text ++ unescape rest := by
  induction text with
  | nil => rfl
  | cons c text ih =>
    rw [List.mem_cons, not_or] at h
    rw [List.cons_append, unescape_cons_of_ne (Ne.symm h.1), ih h.2, List.cons_append]

lemma unescape_tilde (h : ∀ d ∈ rest.head?, d ≠ '0' ∧ d ≠ '1') :
    unescape ('~' :: rest) = '~' :: unescape rest := by
  rcases rest with _ | ⟨d, rest⟩
  · rfl
  · obtain ⟨hzero, hone⟩ := h d rfl
    rw [unescape.eq_def]
    split
    · next heq => cases heq
    · next heq => cases heq; exact absurd rfl hone
    · next heq => cases heq; exact absurd rfl hzero
    · next heq => cases heq; rfl

/-- A tilde escape is one character. -/
lemma exists_unescape_pair (hd : d = '0' ∨ d = '1') :
    ∃ e, e ≠ '%' ∧ ∀ rest, unescape ('~' :: d :: rest) = e :: unescape rest := by
  rcases hd with rfl | rfl
  · exact ⟨'~', by decide, fun _ => rfl⟩
  · exact ⟨'/', by decide, fun _ => rfl⟩

/-- A digit that follows after the slashes have been put in followed before. -/
lemma head?_replace_slash (h : '0' ∈ (replace ['~', '1'] ['/'] text).head?) :
    ∃ rest, text = '0' :: rest := by
  rcases text with _ | ⟨c, rest⟩
  · cases h
  by_cases hbegins : ['~', '1'] <+: c :: rest
  · rw [replace_cons_of_begins hbegins] at h
    exact absurd (Option.some.inj h) (by decide)
  · rw [replace_cons_of_not_begins hbegins] at h
    exact ⟨rest, by rw [← Option.some.inj h]⟩

/-- Tilde escapes are undone by two replacements, that of slashes first. -/
theorem unescape_eq_replace (text : List Char) :
    unescape text = replace ['~', '0'] ['~'] (replace ['~', '1'] ['/'] text) := by
  induction text using unescape.induct with
  | case1 => rfl
  | case2 rest ih =>
    have hslash : ¬ ['~', '0'] <+: '/' :: replace ['~', '1'] ['/'] rest := by simp
    have hfirst : replace ['~', '1'] ['/'] ('~' :: '1' :: rest) =
        '/' :: replace ['~', '1'] ['/'] rest := replace_append_self
    rw [hfirst, replace_cons_of_not_begins hslash, ← ih]
    rfl
  | case3 rest ih =>
    have htilde : ¬ ['~', '1'] <+: '~' :: '0' :: rest := by simp
    have hzero : ¬ ['~', '1'] <+: '0' :: rest := by simp
    have hsecond : replace ['~', '0'] ['~'] ('~' :: '0' :: replace ['~', '1'] ['/'] rest) =
        '~' :: replace ['~', '0'] ['~'] (replace ['~', '1'] ['/'] rest) := replace_append_self
    rw [replace_cons_of_not_begins htilde, replace_cons_of_not_begins hzero, hsecond, ← ih]
    rfl
  | case4 c rest hone hzero ih =>
    have hfirst : ¬ ['~', '1'] <+: c :: rest := by
      rintro ⟨more, heq⟩
      cases heq
      exact hone more rfl rfl
    have hsecond : ¬ ['~', '0'] <+: c :: replace ['~', '1'] ['/'] rest := by
      rintro ⟨more, heq⟩
      obtain ⟨hc, hrest⟩ := List.cons.inj heq
      have hhead : '0' ∈ (replace ['~', '1'] ['/'] rest).head? := by
        rw [← hrest]
        rfl
      obtain ⟨more, rfl⟩ := head?_replace_slash hhead
      exact hzero more hc.symm rfl
    rw [replace_cons_of_not_begins hfirst, replace_cons_of_not_begins hsecond, ← ih, unescape]
    · exact hone
    · exact hzero

/-! ### Percent escapes among tilde escapes -/

lemma beginsWithEscape_unescape (h : BeginsWithEscape text octet rest) :
    BeginsWithEscape (unescape text) octet (unescape rest) := by
  obtain ⟨high, low, n, m, rfl, hhigh, hlow, rfl⟩ := h
  have hne : ∀ {c : Char} {n : Nat}, hexValue? c.toNat = some n → c ≠ '~' := by
    rintro _ _ h rfl
    cases h
  refine ⟨high, low, n, m, ?_, hhigh, hlow, rfl⟩
  rw [unescape_cons_of_ne (by decide), unescape_cons_of_ne (hne hhigh),
    unescape_cons_of_ne (hne hlow)]

lemma exists_of_unescape_eq_cons (h : unescape text = c :: rest) (htilde : c ≠ '~')
    (hslash : c ≠ '/') : ∃ tail, text = c :: tail ∧ unescape tail = rest := by
  rw [unescape.eq_def] at h
  split at h
  · cases h
  · exact absurd (List.cons.inj h).1.symm hslash
  · exact absurd (List.cons.inj h).1.symm htilde
  · next b tail _ _ =>
    obtain ⟨rfl, rfl⟩ := List.cons.inj h
    exact ⟨tail, rfl, rfl⟩

/-- No escape comes about where tilde escapes are replaced. -/
lemma beginsWithEscape_of_unescape (h : BeginsWithEscape (c :: unescape tail) octet rest) :
    ∃ rest', BeginsWithEscape (c :: tail) octet rest' := by
  have hne : ∀ {c : Char} {n : Nat}, hexValue? c.toNat = some n → c ≠ '~' ∧ c ≠ '/' := by
    intro _ _ h
    constructor
    all_goals
      rintro rfl
      cases h
  obtain ⟨high, low, n, m, heq, hhigh, hlow, rfl⟩ := h
  obtain ⟨rfl, htail⟩ := List.cons.inj heq
  obtain ⟨more, rfl, hmore⟩ := exists_of_unescape_eq_cons htail (hne hhigh).1 (hne hhigh).2
  obtain ⟨rest', rfl, -⟩ := exists_of_unescape_eq_cons hmore (hne hlow).1 (hne hlow).2
  exact ⟨rest', high, low, n, m, rfl, hhigh, hlow, rfl⟩

/-- A tilde that is not in a pair stays where it is, however it is written. -/
lemma beginsWith_unescape (h : BeginsWith '~' text middle)
    (hpair : ∀ d, d = '0' ∨ d = '1' → ∀ rest, text ≠ '~' :: d :: rest) :
    BeginsWith '~' (unescape text) (unescape middle) := by
  rcases h with rfl | h
  · refine .inl (unescape_tilde fun d hd => ?_)
    obtain ⟨rest, rfl⟩ := List.head?_eq_some_iff.1 hd
    exact ⟨fun heq => hpair d (.inl heq) rest rfl, fun heq => hpair d (.inr heq) rest rfl⟩
  · exact .inr (beginsWithEscape_unescape h)

/-! ### Hidden tilde escapes -/

/-- The ways to write a tilde. -/
def tildeSpellings : List (List Char) := [['~'], ['%', '7', 'E'], ['%', '7', 'e']]

/-- The ways to write the digit of a tilde escape. -/
def digitSpellings : List (List Char) := [['0'], ['1'], ['%', '3', '0'], ['%', '3', '1']]

/-- Somewhere in the segment stands a tilde escape that is written with percent escapes. -/
def HidesEscape (segment : List Char) : Prop :=
  ∃ tilde ∈ tildeSpellings, ∃ digit ∈ digitSpellings,
    '%' ∈ tilde ++ digit ∧ tilde ++ digit <:+: segment

instance (segment : List Char) : Decidable (HidesEscape segment) :=
  inferInstanceAs (Decidable (∃ tilde ∈ tildeSpellings, ∃ digit ∈ digitSpellings,
    '%' ∈ tilde ++ digit ∧ tilde ++ digit <:+: segment))

/-- Such an escape stands at the beginning. -/
def BeginsHidden (segment : List Char) : Prop :=
  ∃ tilde ∈ tildeSpellings, ∃ digit ∈ digitSpellings,
    '%' ∈ tilde ++ digit ∧ tilde ++ digit <+: segment

lemma hidesEscape_cons :
    HidesEscape (c :: tail) ↔ BeginsHidden (c :: tail) ∨ HidesEscape tail := by
  simp only [HidesEscape, BeginsHidden, List.infix_cons_iff, and_or_left, exists_or]

/-- A tilde is written in one of these ways. -/
lemma exists_tildeSpelling (h : BeginsWith '~' text rest) :
    ∃ tilde ∈ tildeSpellings, ('%' ∈ tilde ∨ tilde = ['~']) ∧ text = tilde ++ rest := by
  rcases h with rfl | ⟨high, low, n, m, rfl, hhigh, hlow, heq⟩
  · exact ⟨['~'], .head _, .inr rfl, rfl⟩
  · have htilde : '~'.toNat = 126 := rfl
    have hhigh := eq_of_hexValue? hhigh
    have hlow := eq_of_hexValue? hlow
    obtain rfl : high = '7' := Char.toNat_inj.1 (show high.toNat = 55 by omega)
    obtain hlow | hlow : low.toNat = 69 ∨ low.toNat = 101 := by omega
    · obtain rfl : low = 'E' := Char.toNat_inj.1 hlow
      exact ⟨_, .tail _ (.head _), .inl (.head _), rfl⟩
    · obtain rfl : low = 'e' := Char.toNat_inj.1 hlow
      exact ⟨_, .tail _ (.tail _ (.head _)), .inl (.head _), rfl⟩

/-- The digit of a tilde escape is written in one of these ways. -/
lemma exists_digitSpelling (h : BeginsWith d text rest) (hd : d = '0' ∨ d = '1') :
    ∃ digit ∈ digitSpellings, ('%' ∈ digit ∨ digit = [d]) ∧ text = digit ++ rest := by
  rcases h with rfl | ⟨high, low, n, m, rfl, hhigh, hlow, heq⟩
  · exact ⟨[d], by rcases hd with rfl | rfl <;> decide, .inr rfl, rfl⟩
  · have hhigh := eq_of_hexValue? hhigh
    have hlow := eq_of_hexValue? hlow
    rcases hd with rfl | rfl
    · have hzero : '0'.toNat = 48 := rfl
      obtain rfl : high = '3' := Char.toNat_inj.1 (show high.toNat = 51 by omega)
      obtain rfl : low = '0' := Char.toNat_inj.1 (show low.toNat = 48 by omega)
      exact ⟨['%', '3', '0'], by decide, .inl (.head _), rfl⟩
    · have hone : '1'.toNat = 49 := rfl
      obtain rfl : high = '3' := Char.toNat_inj.1 (show high.toNat = 51 by omega)
      obtain rfl : low = '1' := Char.toNat_inj.1 (show low.toNat = 49 by omega)
      exact ⟨['%', '3', '1'], by decide, .inl (.head _), rfl⟩

lemma beginsHidden_of_beginsWith (htilde : BeginsWith '~' text middle) (hd : d = '0' ∨ d = '1')
    (hdigit : BeginsWith d middle rest) (hpair : text ≠ '~' :: d :: rest) :
    BeginsHidden text := by
  obtain ⟨tilde, hmem, hwritten, rfl⟩ := exists_tildeSpelling htilde
  obtain ⟨digit, hmem', hwritten', rfl⟩ := exists_digitSpelling hdigit hd
  refine ⟨tilde, hmem, digit, hmem', ?_, rest, List.append_assoc _ _ _⟩
  rw [List.mem_append]
  rcases hwritten with hpercent | rfl
  · exact .inl hpercent
  · rcases hwritten' with hpercent | rfl
    · exact .inr hpercent
    · exact absurd rfl hpair

lemma exists_of_beginsHidden (h : BeginsHidden text) :
    ∃ middle rest d, BeginsWith '~' text middle ∧ (d = '0' ∨ d = '1') ∧
      BeginsWith d middle rest ∧ text ≠ '~' :: d :: rest := by
  obtain ⟨tilde, hmem, digit, hmem', hpercent, rest, rfl⟩ := h
  have htilde : BeginsWith '~' (tilde ++ (digit ++ rest)) (digit ++ rest) := by
    simp only [tildeSpellings, List.mem_cons, List.not_mem_nil, or_false] at hmem
    rcases hmem with rfl | rfl | rfl
    · exact .inl rfl
    · exact .inr ⟨_, _, 7, 14, rfl, rfl, rfl, rfl⟩
    · exact .inr ⟨_, _, 7, 14, rfl, rfl, rfl, rfl⟩
  obtain ⟨d, hd, hdigit⟩ : ∃ d, (d = '0' ∨ d = '1') ∧ BeginsWith d (digit ++ rest) rest := by
    simp only [digitSpellings, List.mem_cons, List.not_mem_nil, or_false] at hmem'
    rcases hmem' with rfl | rfl | rfl | rfl
    · exact ⟨'0', .inl rfl, .inl rfl⟩
    · exact ⟨'1', .inr rfl, .inl rfl⟩
    · exact ⟨'0', .inl rfl, .inr ⟨_, _, 3, 0, rfl, rfl, rfl, rfl⟩⟩
    · exact ⟨'1', .inr rfl, .inr ⟨_, _, 3, 1, rfl, rfl, rfl, rfl⟩⟩
  refine ⟨digit ++ rest, rest, d, List.append_assoc _ _ _ ▸ htilde, hd, hdigit, fun hpair => ?_⟩
  have hwritten : tilde ++ digit = ['~', d] := List.append_cancel_right hpair
  rw [hwritten] at hpercent
  rcases hd with rfl | rfl <;> simp at hpercent

/-- Behind an escape only the beginning has to be looked at. -/
lemma hidesEscape_of_beginsWithEscape (h : BeginsWithEscape text octet rest) :
    HidesEscape text ↔ BeginsHidden text ∨ HidesEscape rest := by
  obtain ⟨high, low, n, m, rfl, hhigh, hlow, -⟩ := h
  have hdigit : ∀ {c : Char} {n : Nat} (more : List Char), hexValue? c.toNat = some n →
      ¬ BeginsHidden (c :: more) := by
    rintro c n more hc hbegins
    obtain ⟨_, _, _, htilde | ⟨_, _, _, _, heq, -⟩, -⟩ := exists_of_beginsHidden hbegins
    · obtain rfl := (List.cons.inj htilde).1
      cases hc
    · obtain rfl := (List.cons.inj heq).1
      cases hc
  rw [hidesEscape_cons, hidesEscape_cons, hidesEscape_cons, or_iff_right (hdigit _ hhigh),
    or_iff_right (hdigit _ hlow)]

lemma hidesEscape_of_beginsWith (h : BeginsWith c text rest) :
    HidesEscape text ↔ BeginsHidden text ∨ HidesEscape rest := by
  rcases h with rfl | h
  · exact hidesEscape_cons
  · exact hidesEscape_of_beginsWithEscape h

lemma not_beginsHidden (h : ∀ middle, ¬ BeginsWith '~' text middle) : ¬ BeginsHidden text := by
  intro hhidden
  obtain ⟨middle, -, -, htilde, -⟩ := exists_of_beginsHidden hhidden
  exact h middle htilde

/-- A tilde escape that stands there as it is hides nothing. -/
lemma hidesEscape_pair (hd : d = '0' ∨ d = '1') :
    HidesEscape ('~' :: d :: rest) ↔ HidesEscape rest := by
  have hne : d ≠ '%' ∧ d ≠ '~' := by rcases hd with rfl | rfl <;> decide
  have htilde : ¬ BeginsHidden ('~' :: d :: rest) := by
    intro h
    obtain ⟨middle, _, _, hbegins, -, hdigit | hdigit, hpair⟩ := exists_of_beginsHidden h
    all_goals obtain rfl := hbegins.unique (by decide) (.inl rfl)
    · exact hpair (by rw [hdigit])
    · exact not_beginsWithEscape hne.1 _ _ hdigit
  have hdigit : ¬ BeginsHidden (d :: rest) := by
    refine not_beginsHidden fun middle hbegins => ?_
    rcases hbegins with hbegins | hbegins
    · exact hne.2 (List.cons.inj hbegins).1
    · exact not_beginsWithEscape hne.1 _ _ hbegins
  rw [hidesEscape_cons, hidesEscape_cons, or_iff_right htilde, or_iff_right hdigit]

/-! ### The order of the two layers -/

/-- One text is longer than another in a certain case, and otherwise it is the same. -/
def Departs (case : Prop) (a b : List Char) : Prop :=
  (case → b.length < a.length) ∧ (¬ case → a = b)

lemma Departs.length_le {case : Prop} {a b : List Char} (h : Departs case a b) :
    b.length ≤ a.length := by
  by_cases hcase : case
  · exact (h.1 hcase).le
  · exact (congrArg List.length (h.2 hcase)).ge

lemma Departs.append {case : Prop} {a b : List Char} (h : Departs case a b)
    (before : List Char) : Departs case (before ++ a) (before ++ b) := by
  refine ⟨fun hcase => ?_, fun hcase => by rw [h.2 hcase]⟩
  rw [List.length_append, List.length_append]
  exact Nat.add_lt_add_left (h.1 hcase) _

lemma tilde_not_mem_cutShort (underWay : Option Utf8.Partial) :
    '~' ∉ Utf8.cutShort underWay := by
  cases underWay with
  | none => exact List.not_mem_nil
  | some p =>
    intro h
    exact absurd (List.mem_singleton.1 h) (by simp [Utf8.replacement])

/-- Behind whatever is under way, undoing tilde escapes first makes a longer text if one of them
is hidden, and otherwise no difference. -/
def Compared (underWay : Option Utf8.Partial) (segment : List Char) : Prop :=
  Departs (HidesEscape segment) (decodeFrom underWay (unescape segment))
    (unescape (decodeFrom underWay segment))

/-- A tilde escape that stands there as it is makes one character in both orders. -/
lemma compared_pair (continues : Utf8.Continues underWay) (hd : d = '0' ∨ d = '1')
    (ih : Compared none rest) : Compared underWay ('~' :: d :: rest) := by
  have hpercent : d ≠ '%' := by rcases hd with rfl | rfl <;> decide
  obtain ⟨e, he, hunescape⟩ := exists_unescape_pair hd
  have hread : decodeFrom underWay ('~' :: d :: rest) =
      Utf8.cutShort underWay ++ '~' :: d :: decodeFrom none rest := by
    rw [decodeFrom_cons continues (not_beginsWithEscape (by decide)),
      decodeFrom_cons Utf8.continues_none (not_beginsWithEscape hpercent), Utf8.cutShort_none,
      List.nil_append]
  rw [Compared, hidesEscape_pair hd, hread, hunescape,
    unescape_append_of_not_mem (tilde_not_mem_cutShort underWay), hunescape,
    decodeFrom_cons continues (not_beginsWithEscape he)]
  exact (ih.append [e]).append _

/-- A tilde without a digit behind it stands for itself, in both orders. -/
lemma compared_tilde (continues : Utf8.Continues underWay) (htilde : BeginsWith '~' text middle)
    (hdigit : ∀ d, d = '0' ∨ d = '1' → ∀ rest, ¬ BeginsWith d middle rest)
    (ih : Compared none middle) : Compared underWay text := by
  have hnone : ¬ BeginsHidden text := by
    intro h
    obtain ⟨middle', rest, d, htilde', hd, hwritten, -⟩ := exists_of_beginsHidden h
    obtain rfl := htilde.unique (by decide) htilde'
    exact hdigit d hd rest hwritten
  have hpair : ∀ d, d = '0' ∨ d = '1' → ∀ rest, text ≠ '~' :: d :: rest := by
    rintro d hd rest rfl
    obtain rfl := htilde.unique (by decide) (.inl rfl)
    exact hdigit d hd rest (.inl rfl)
  have hhead : ∀ d ∈ (decodeFrom none middle).head?, d ≠ '0' ∧ d ≠ '1' := by
    intro d hd
    constructor
    · rintro rfl
      obtain ⟨rest, hrest⟩ := exists_beginsWith_of_head? hd (by decide) (by decide)
      exact hdigit _ (.inl rfl) rest hrest
    · rintro rfl
      obtain ⟨rest, hrest⟩ := exists_beginsWith_of_head? hd (by decide) (by decide)
      exact hdigit _ (.inr rfl) rest hrest
  rw [Compared, hidesEscape_of_beginsWith htilde, or_iff_right hnone,
    htilde.decodeFrom continues (by decide) (by decide),
    (beginsWith_unescape htilde hpair).decodeFrom continues (by decide) (by decide),
    unescape_append_of_not_mem (tilde_not_mem_cutShort underWay), unescape_tilde hhead]
  exact (ih.append ['~']).append _

/-- A hidden escape is one character, but two if tilde escapes are undone first. -/
lemma compared_hidden (continues : Utf8.Continues underWay) (htilde : BeginsWith '~' text middle)
    (hd : d = '0' ∨ d = '1') (hdigit : BeginsWith d middle rest)
    (hpair : text ≠ '~' :: d :: rest) (ih : Compared none rest) : Compared underWay text := by
  have hhides : HidesEscape text :=
    (hidesEscape_of_beginsWith htilde).2
      (.inl (beginsHidden_of_beginsWith htilde hd hdigit hpair))
  have hascii : d.toNat < 0x80 ∧ d ≠ '%' ∧ d ≠ '~' := by rcases hd with rfl | rfl <;> decide
  obtain ⟨e, -, hunescape⟩ := exists_unescape_pair hd
  have htilde' : BeginsWith '~' (unescape text) (unescape middle) := by
    refine beginsWith_unescape htilde ?_
    rintro d' hd' rest' rfl
    obtain rfl := htilde.unique (by decide) (.inl rfl)
    have hne : d' ≠ '%' := by rcases hd' with rfl | rfl <;> decide
    rcases hdigit with hdigit | hdigit
    · exact hpair (by rw [hdigit])
    · exact not_beginsWithEscape hne _ _ hdigit
  have hdigit' : BeginsWith d (unescape middle) (unescape rest) := by
    rcases hdigit with rfl | hdigit
    · exact .inl (unescape_cons_of_ne hascii.2.2 rest)
    · exact .inr (beginsWithEscape_unescape hdigit)
  refine ⟨fun _ => ?_, absurd hhides⟩
  rw [htilde.decodeFrom continues (by decide) (by decide),
    htilde'.decodeFrom continues (by decide) (by decide),
    hdigit.decodeFrom Utf8.continues_none hascii.1 hascii.2.1,
    hdigit'.decodeFrom Utf8.continues_none hascii.1 hascii.2.1,
    unescape_append_of_not_mem (tilde_not_mem_cutShort underWay), Utf8.cutShort_none,
    List.nil_append, List.nil_append, hunescape]
  have hrest := ih.length_le
  simp only [List.length_append, List.length_cons]
  omega

/-- An escape of any other octet is read in both orders before what follows. -/
lemma compared_escape (beyond : Utf8.BeyondAscii underWay) (h : BeginsWithEscape text octet rest)
    (hoctet : octet ≠ '~'.toNat) (ih : Compared (Utf8.step underWay octet).2 rest) :
    Compared underWay text := by
  have hnone : ¬ BeginsHidden text := by
    refine not_beginsHidden fun middle htilde => ?_
    rcases htilde with rfl | htilde
    · exact not_beginsWithEscape (by decide) _ _ h
    · exact hoctet (h.unique htilde).1
  have htilde : '~' ∉ (Utf8.step underWay octet).1 := fun htilde =>
    hoctet (Utf8.octet_eq_of_mem_step beyond htilde (by decide) (by decide))
  rw [Compared, hidesEscape_of_beginsWithEscape h, or_iff_right hnone, decodeFrom_of_escape h,
    decodeFrom_of_escape (beginsWithEscape_unescape h), unescape_append_of_not_mem htilde]
  exact ih.append _

/-- Any other character stands for itself in both orders. -/
lemma compared_char (continues : Utf8.Continues underWay) (hc : c ≠ '~')
    (h : ∀ octet rest, ¬ BeginsWithEscape (c :: tail) octet rest) (ih : Compared none tail) :
    Compared underWay (c :: tail) := by
  have hnone : ¬ BeginsHidden (c :: tail) := by
    refine not_beginsHidden fun middle htilde => ?_
    rcases htilde with htilde | htilde
    · exact hc (List.cons.inj htilde).1
    · exact h _ _ htilde
  have h' : ∀ octet rest, ¬ BeginsWithEscape (c :: unescape tail) octet rest := by
    intro octet rest hescape
    obtain ⟨rest', hescape⟩ := beginsWithEscape_of_unescape hescape
    exact h octet rest' hescape
  rw [Compared, hidesEscape_cons, or_iff_right hnone, decodeFrom_cons continues h,
    unescape_cons_of_ne hc, decodeFrom_cons continues h',
    unescape_append_of_not_mem (tilde_not_mem_cutShort underWay), unescape_cons_of_ne hc]
  exact (ih.append [c]).append _

/-- The induction is on the length of the text, as a piece of it may be an escape
of two layers. -/
lemma compared (continues : Utf8.Continues underWay) (beyond : Utf8.BeyondAscii underWay)
    (text : List Char) : Compared underWay text := by
  induction hlength : text.length using Nat.strongRecOn generalizing text underWay with
  | ind n ih =>
    subst hlength
    have ihnone : ∀ rest : List Char, rest.length < text.length → Compared none rest :=
      fun rest hrest => ih _ hrest Utf8.continues_none Utf8.beyondAscii_none rest rfl
    rcases text with _ | ⟨c, tail⟩
    · refine ⟨fun h => absurd h (by decide), fun _ => ?_⟩
      cases underWay <;> rfl
    by_cases htilde : ∃ middle, BeginsWith '~' (c :: tail) middle
    · obtain ⟨middle, htilde⟩ := htilde
      by_cases hdigit : ∃ d, (d = '0' ∨ d = '1') ∧ ∃ rest, BeginsWith d middle rest
      · obtain ⟨d, hd, rest, hdigit⟩ := hdigit
        have ih := ihnone rest (hdigit.length_lt.trans htilde.length_lt)
        by_cases hpair : c :: tail = '~' :: d :: rest
        · rw [hpair]
          exact compared_pair continues hd ih
        · exact compared_hidden continues htilde hd hdigit hpair ih
      · exact compared_tilde continues htilde (fun d hd rest h => hdigit ⟨d, hd, rest, h⟩)
          (ihnone middle htilde.length_lt)
    by_cases hescape : ∃ octet rest, BeginsWithEscape (c :: tail) octet rest
    · obtain ⟨octet, rest, hescape⟩ := hescape
      refine compared_escape beyond hescape ?_ (ih _ hescape.length_lt
        (Utf8.continues_step underWay octet) (Utf8.beyondAscii_step beyond octet) rest rfl)
      rintro rfl
      exact htilde ⟨rest, .inr hescape⟩
    · refine compared_char continues ?_ (fun octet rest h => hescape ⟨octet, rest, h⟩)
        (ihnone tail (Nat.lt_succ_self _))
      rintro rfl
      exact htilde ⟨tail, .inl rfl⟩

/-- The order of the layers makes a difference just for a segment with a hidden tilde escape. -/
theorem decodeSegment_eq_unescape_iff (segment : List Char) :
    decodeSegment segment = unescape (Percent.decode segment) ↔ ¬ HidesEscape segment := by
  obtain ⟨hdiffer, hagree⟩ : Departs (HidesEscape segment) (decodeSegment segment)
      (unescape (Percent.decode segment)) :=
    compared Utf8.continues_none Utf8.beyondAscii_none segment
  constructor
  · intro heq hhides
    exact absurd (congrArg List.length heq) (hdiffer hhides).ne'
  · exact hagree

/-! ### Escaped separators -/

lemma unescape_append_percent (text rest : List Char) :
    unescape (text ++ '%' :: rest) = unescape text ++ '%' :: unescape rest := by
  induction text using unescape.induct with
  | case1 => exact unescape_cons_of_ne (by decide) rest
  | case2 text ih => exact congrArg ('/' :: ·) ih
  | case3 text ih => exact congrArg ('~' :: ·) ih
  | case4 c text hone hzero ih =>
    by_cases hc : c = '~'
    · have hhead : ∀ {d}, d ∈ text.head? → d ≠ '0' ∧ d ≠ '1' := by
        intro d hd
        obtain ⟨more, rfl⟩ := List.head?_eq_some_iff.1 hd
        exact ⟨fun heq => hzero more hc (by rw [heq]), fun heq => hone more hc (by rw [heq])⟩
      subst hc
      rw [List.cons_append, unescape_tilde, unescape_tilde fun d => hhead, ih, List.cons_append]
      intro d hd
      rcases text with _ | ⟨b, text⟩
      · obtain rfl := Option.some.inj hd
        decide
      · exact hhead hd
    · rw [List.cons_append, unescape_cons_of_ne hc, unescape_cons_of_ne hc, ih, List.cons_append]

/-- A slash that is written as an escape is a slash in the name, whatever stands around it. -/
lemma decodeSegment_append_slash {slash : List Char}
    (hslash : slash ∈ [['%', '2', 'F'], ['%', '2', 'f']]) (before rest : List Char) :
    decodeSegment (before ++ slash ++ rest) =
      decodeSegment before ++ '/' :: decodeSegment rest := by
  obtain ⟨tail, rfl, hescape⟩ : ∃ tail, slash = '%' :: tail ∧
      BeginsWithEscape ('%' :: unescape (tail ++ rest)) '/'.toNat (unescape rest) := by
    simp only [List.mem_cons, List.not_mem_nil, or_false] at hslash
    rcases hslash with rfl | rfl
    · exact ⟨_, rfl, '2', 'F', 2, 15, rfl, rfl, rfl, rfl⟩
    · exact ⟨_, rfl, '2', 'f', 2, 15, rfl, rfl, rfl, rfl⟩
  rw [decodeSegment, List.append_assoc, List.cons_append, unescape_append_percent]
  exact decodeFrom_append_escape Utf8.continues_none hescape (by decide) _

/-! ### No segment for nothing -/

lemma unescape_ne_nil (h : text ≠ []) : unescape text ≠ [] := by
  rw [unescape.eq_def]
  split
  · exact absurd rfl h
  all_goals exact List.cons_ne_nil _ _

/-- A segment that is not empty spells a name that is not empty. -/
lemma decodeSegment_ne_nil (h : segment ≠ []) : decodeSegment segment ≠ [] :=
  decode_ne_nil (unescape_ne_nil h)

end Reference

end OpenApiDoc
