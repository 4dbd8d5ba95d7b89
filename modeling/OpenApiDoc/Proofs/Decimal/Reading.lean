import OpenApiDoc.Decimal.Reading
import OpenApiDoc.Json.Writer
import OpenApiDoc.Proofs.Decimal.Shortest
import OpenApiDoc.Text.Blank

/-!
# Number texts that read back

The text of a number is read as the number: that of a whole number as the whole number, and, by
the reader of floating point numbers, as the nearest double; that of a double as the same double,
however it is laid out.
-/

namespace OpenApiDoc

/-- A text without white space stays as it is. -/
lemma Text.trim_of_forall {text : List Char} (h : ∀ c ∈ text, isBlank c = false) :
    trim text = text := by
  have hdrop : ∀ {text : List Char}, (∀ c ∈ text, isBlank c = false) →
      text.dropWhile isBlank = text := by
    intro text h
    cases text with
    | nil => rfl
    | cons c rest => rw [List.dropWhile_cons, h c List.mem_cons_self, if_neg Bool.false_ne_true]
  rw [trim, hdrop h, hdrop fun c hc => h c (List.mem_reverse.1 hc), List.reverse_reverse]

namespace Decimal

variable {negative : Bool} {text whole fraction tail : List Char} {c : Char} {exponent : Int}
variable {d d' : Decimal}

/-! ### Digits -/

/-- The text consists of digits. -/
def Digital (text : List Char) : Prop := ∀ c ∈ text, c.isDigit = true

lemma digital_toDigits (n : Nat) : Digital (Nat.toDigits 10 n) :=
  fun _ => Nat.isDigit_of_mem_toDigits (by decide) (by decide)

lemma digital_zeros (n : Nat) : Digital (List.replicate n '0') := by
  intro c hc
  rw [List.eq_of_mem_replicate hc]
  rfl

lemma Digital.append (h : Digital whole) (h' : Digital fraction) : Digital (whole ++ fraction) :=
  fun c hc => (List.mem_append.1 hc).elim (h c) (h' c)

lemma Digital.takeWhile_append (h : Digital whole)
    (htail : ∀ c ∈ tail.head?, c.isDigit = false) :
    (whole ++ tail).takeWhile Char.isDigit = whole := by
  rw [List.takeWhile_append_of_pos h]
  cases tail with
  | nil => simp
  | cons c rest => simp [htail c rfl]

lemma Digital.dropWhile_append (h : Digital whole)
    (htail : ∀ c ∈ tail.head?, c.isDigit = false) :
    (whole ++ tail).dropWhile Char.isDigit = tail := by
  rw [List.dropWhile_append_of_pos h]
  cases tail with
  | nil => rfl
  | cons c rest => simp [htail c rfl]

lemma natOfDigits_toDigits (n : Nat) : natOfDigits (Nat.toDigits 10 n) = n :=
  Nat.ofDigitChars_ten_toDigits

lemma natOfDigits_append_zeros (digits : List Char) (n : Nat) :
    natOfDigits (digits ++ List.replicate n '0') = natOfDigits digits * 10 ^ n := by
  rw [Nat.mul_comm]
  exact (Nat.ofDigitChars_append 0).trans Nat.ofDigitChars_replicate_zero

lemma natOfDigits_zeros_append (n : Nat) (digits : List Char) :
    natOfDigits (List.replicate n '0' ++ digits) = natOfDigits digits := by
  have hzeros : Nat.ofDigitChars 10 (List.replicate n '0') 0 = 0 := by
    rw [Nat.ofDigitChars_replicate_zero, Nat.mul_zero]
  exact (Nat.ofDigitChars_append 0).trans (congrArg (Nat.ofDigitChars 10 digits) hzeros)

lemma toNat_bounds_of_isDigit (h : c.isDigit = true) : 48 ≤ c.toNat ∧ c.toNat ≤ 57 :=
  Char.isDigit_iff_toNat.1 h

lemma isBlank_of_isDigit (h : c.isDigit = true) : Text.isBlank c = false := by
  have hbounds := toNat_bounds_of_isDigit h
  simp only [Text.isBlank, Bool.or_eq_false_iff, Bool.and_eq_false_iff, decide_eq_false_iff_not,
    beq_eq_false_iff_ne]
  omega

/-! ### Whole numbers -/

/-- A text after a minus sign if the number is negative. -/
def signed (negative : Bool) (text : List Char) : List Char :=
  if negative then '-' :: text else text

/-- The text begins with a digit. -/
def Leads (text : List Char) : Prop := ∃ c ∈ text.head?, c.isDigit = true

lemma Digital.leads_append (h : Digital whole) (hne : whole ≠ []) (tail : List Char) :
    Leads (whole ++ tail) := by
  cases whole with
  | nil => contradiction
  | cons c rest => exact ⟨c, rfl, h c List.mem_cons_self⟩

lemma splitSign_signed (h : Leads text) (negative : Bool) :
    splitSign (signed negative text) = (negative, text) := by
  cases negative with
  | true => rfl
  | false =>
    obtain ⟨c, hc, hdigit⟩ := h
    obtain ⟨rest, rfl⟩ := List.head?_eq_some_iff.1 hc
    rw [signed, if_neg Bool.false_ne_true]
    unfold splitSign
    split
    · next heq => cases heq; cases hdigit
    · next heq => cases heq; cases hdigit
    · rfl

lemma readNat_toDigits (n : Nat) : readNat (Nat.toDigits 10 n) = some n := by
  have hall : (Nat.toDigits 10 n).all Char.isDigit = true :=
    List.all_eq_true.2 (digital_toDigits n)
  simp [readNat, hall, natOfDigits_toDigits]

lemma leads_toDigits (n : Nat) : Leads (Nat.toDigits 10 n) := by
  have h := (digital_toDigits n).leads_append Nat.toDigits_ne_nil []
  rwa [List.append_nil] at h

lemma readInt_signed (negative : Bool) (n : Nat) :
    readInt (signed negative (Nat.toDigits 10 n)) =
      some (if negative then -(n : Int) else n) := by
  simp [readInt, splitSign_signed (leads_toDigits n), readNat_toDigits]

lemma toList_toString_int (n : Int) :
    (toString n).toList = signed (decide (n < 0)) (Nat.toDigits 10 n.natAbs) := by
  rw [Int.toString_eq_repr, Int.repr_eq_if, signed]
  by_cases hn : n < 0
  · have habs : (-n).toNat = n.natAbs := by omega
    rw [if_neg (Int.not_le.2 hn), if_pos (decide_eq_true hn), String.toList_append,
      Nat.toList_repr, habs]
    rfl
  · have habs : n.toNat = n.natAbs := by omega
    rw [if_pos (Int.not_lt.1 hn), if_neg (by simpa using hn), Nat.toList_repr, habs]

theorem readInt_toString (n : Int) : readInt (toString n).toList = some n := by
  rw [toList_toString_int, readInt_signed, Option.some_inj]
  by_cases hn : n < 0
  · rw [if_pos (decide_eq_true hn)]
    omega
  · rw [if_neg (by simpa using hn)]
    omega

/-! ### Floating point numbers -/

lemma toLower_of_isDigit (h : c.isDigit = true) : c.toLower = c := by
  have hbounds := toNat_bounds_of_isDigit h
  rw [Char.toLower, dif_neg]
  rintro ⟨hlow, -⟩
  have : 65 ≤ c.toNat := hlow
  omega

/-- A text that begins with a digit names no infinity, so it is read as a decimal. -/
lemma readFloat_signed (h : Leads text) {digits : Nat} {x : Binary64}
    (hread : readDecimal text = some (digits, exponent))
    (hvalue : Binary64.ofDecimal negative digits exponent = some x) :
    readFloat (signed negative text) = some (.finite x) := by
  have hsign := splitSign_signed h negative
  obtain ⟨c, hc, hdigit⟩ := h
  obtain ⟨rest, rfl⟩ := List.head?_eq_some_iff.1 hc
  have hname : ∀ (a : Char) (name : List Char), a.isDigit = false →
      (c :: rest).map Char.toLower ≠ a :: name := by
    intro a name ha heq
    rw [List.map_cons, toLower_of_isDigit hdigit, List.cons.injEq] at heq
    rw [heq.1, ha] at hdigit
    cases hdigit
  simp only [readFloat, hsign]
  rw [if_neg (not_or.2 ⟨hname _ _ rfl, hname _ _ rfl⟩), if_neg (hname _ _ rfl), hread]
  simp only [Option.map_some, hvalue]

/-- An exponent with its letter and its sign. -/
def exponentText (exponent : Int) : List Char :=
  'e' :: (if exponent < 0 then '-' else '+') :: Nat.toDigits 10 exponent.natAbs

/-- The text of an exponent, or none at all. -/
inductive ExponentText : List Char → Int → Prop
  | absent : ExponentText [] 0
  | written (exponent : Int) : ExponentText (exponentText exponent) exponent

lemma ExponentText.readExponent_eq (h : ExponentText tail exponent) :
    readExponent tail = some exponent := by
  cases h with
  | absent => rfl
  | written =>
    simp only [exponentText, readExponent, true_or, if_true, readInt]
    by_cases hexponent : exponent < 0
    · simp [hexponent, splitSign, readNat_toDigits, abs_of_neg]
    · simp [hexponent, splitSign, readNat_toDigits, abs_of_nonneg (Int.not_lt.1 hexponent)]

lemma ExponentText.isBlank_eq_false (h : ExponentText tail exponent) :
    ∀ c ∈ tail, Text.isBlank c = false := by
  cases h with
  | absent => simp
  | written =>
    intro c hc
    rw [exponentText, List.mem_cons, List.mem_cons] at hc
    rcases hc with rfl | rfl | hc
    · rfl
    · split <;> rfl
    · exact isBlank_of_isDigit (digital_toDigits _ c hc)

lemma ExponentText.isDigit_head (h : ExponentText tail exponent) :
    ∀ c ∈ tail.head?, c.isDigit = false := by
  cases h with
  | absent => simp
  | written e => rintro c ⟨⟩; rfl

/-- A text is a spelling of a decimal: it begins with a digit but is no whole number, holds no
white space, and is read as the decimal or as one of the same value. -/
structure Spells (text : List Char) (d : Decimal) : Prop where
  leads : Leads text
  notDigital : ¬ Digital text
  isBlank_eq_false : ∀ c ∈ text, Text.isBlank c = false
  reads : ∃ digits exponent, readDecimal text = some (digits, exponent) ∧
    ∀ negative, Binary64.ofDecimal negative digits exponent =
      Binary64.ofDecimal negative d.digits d.exponent

lemma spells_pointed (hwhole : Digital whole) (hne : whole ≠ []) (hfraction : Digital fraction)
    (htail : ExponentText tail exponent)
    (hvalue : ∀ negative, Binary64.ofDecimal negative (natOfDigits (whole ++ fraction))
      (exponent - fraction.length) = Binary64.ofDecimal negative d.digits d.exponent) :
    Spells (whole ++ '.' :: (fraction ++ tail)) d where
  leads := hwhole.leads_append hne _
  notDigital h := by simpa using h '.' (by simp)
  isBlank_eq_false c hc := by
    rw [List.mem_append, List.mem_cons, List.mem_append] at hc
    rcases hc with hc | rfl | hc | hc
    · exact isBlank_of_isDigit (hwhole c hc)
    · rfl
    · exact isBlank_of_isDigit (hfraction c hc)
    · exact htail.isBlank_eq_false c hc
  reads := by
    have hpoint : ∀ c ∈ ('.' :: (fraction ++ tail)).head?, c.isDigit = false := by
      rintro c ⟨⟩
      rfl
    refine ⟨_, _, ?_, hvalue⟩
    simp [readDecimal, hwhole.takeWhile_append hpoint, hwhole.dropWhile_append hpoint,
      hfraction.takeWhile_append htail.isDigit_head,
      hfraction.dropWhile_append htail.isDigit_head, htail.readExponent_eq, hne]

lemma spells_unpointed (hwhole : Digital whole) (hne : whole ≠ [])
    (hvalue : ∀ negative, Binary64.ofDecimal negative (natOfDigits whole) exponent =
      Binary64.ofDecimal negative d.digits d.exponent) :
    Spells (whole ++ exponentText exponent) d where
  leads := hwhole.leads_append hne _
  notDigital h := by simpa using h 'e' (by simp [exponentText])
  isBlank_eq_false c hc := by
    rw [List.mem_append] at hc
    rcases hc with hc | hc
    · exact isBlank_of_isDigit (hwhole c hc)
    · exact (ExponentText.written _).isBlank_eq_false c hc
  reads := by
    have hread := (ExponentText.written exponent).readExponent_eq
    have hhead := (ExponentText.written exponent).isDigit_head
    refine ⟨_, _, ?_, hvalue⟩
    simp only [readDecimal, hwhole.takeWhile_append hhead, hwhole.dropWhile_append hhead]
    simp only [exponentText] at hread ⊢
    simp [hread, hne]

/-! ### Layouts -/

section Layouts

variable {digits : List Char}

lemma spells_zero (h : d.digits = 0) : Spells ['0', '.', '0'] d := by
  have hsplit : ['0', '.', '0'] = ['0'] ++ '.' :: (['0'] ++ []) := rfl
  rw [hsplit]
  refine spells_pointed (digital_zeros 1) (by simp) (digital_zeros 1) .absent fun negative => ?_
  have hzeros : natOfDigits ['0', '0'] = 0 := rfl
  rw [List.singleton_append, hzeros, h, Binary64.ofDecimal_zero, Binary64.ofDecimal_zero]

/-- The point stands after the digits. -/
lemma spells_whole (hdigits : Digital digits) (hne : digits ≠ [])
    (hvalue : natOfDigits digits = d.digits) {zeros : Nat} (hzeros : zeros = d.exponent) :
    Spells (digits ++ List.replicate zeros '0' ++ ['.', '0']) d := by
  have hsplit : ['.', '0'] = '.' :: (['0'] ++ []) := rfl
  rw [hsplit]
  refine spells_pointed (hdigits.append (digital_zeros zeros)) (by simp [hne]) (digital_zeros 1)
    .absent fun negative => ?_
  have hshift : natOfDigits (digits ++ List.replicate zeros '0' ++ ['0']) =
      d.digits * 10 ^ (zeros + 1) := by
    rw [List.append_assoc, ← List.replicate_succ', natOfDigits_append_zeros, hvalue]
  have hexponent : (0 - (['0'] : List Char).length + (zeros + 1 : Nat) : Int) = d.exponent := by
    rw [List.length_singleton, ← hzeros]
    omega
  rw [hshift, Binary64.ofDecimal_mul_pow, hexponent]

/-- The point stands between the digits. -/
lemma spells_inner (hdigits : Digital digits) (hvalue : natOfDigits digits = d.digits)
    {point : Nat} (hpos : 0 < point) (hlt : point < digits.length)
    (hpoint : point = digits.length + d.exponent) :
    Spells (digits.take point ++ '.' :: digits.drop point) d := by
  have hdrop : digits.drop point = digits.drop point ++ [] := (List.append_nil _).symm
  have hexponent : (0 - (digits.drop point).length : Int) = d.exponent := by
    rw [List.length_drop]
    omega
  rw [hdrop]
  refine spells_pointed (fun c hc => hdigits c (List.mem_of_mem_take hc)) ?_
    (fun c hc => hdigits c (List.mem_of_mem_drop hc)) .absent fun negative => ?_
  · exact List.ne_nil_of_length_pos (by rw [List.length_take]; omega)
  · rw [List.take_append_drop, hvalue, hexponent]

/-- The point stands before the digits. -/
lemma spells_small (hdigits : Digital digits) (hvalue : natOfDigits digits = d.digits)
    {zeros : Nat} (hzeros : zeros + digits.length = -d.exponent) :
    Spells ('0' :: '.' :: List.replicate zeros '0' ++ digits) d := by
  have hsplit : '0' :: '.' :: List.replicate zeros '0' ++ digits =
      ['0'] ++ '.' :: (List.replicate zeros '0' ++ digits ++ []) := by simp
  have hexponent : (0 - (List.replicate zeros '0' ++ digits).length : Int) = d.exponent := by
    rw [List.length_append, List.length_replicate]
    omega
  rw [hsplit]
  refine spells_pointed (digital_zeros 1) (by simp) ((digital_zeros zeros).append hdigits)
    .absent fun negative => ?_
  rw [← List.append_assoc, ← List.replicate_one, ← List.replicate_add, natOfDigits_zeros_append,
    hvalue, hexponent]

/-- The point stands after the first of several digits, and the exponent behind them. -/
lemma spells_scientific {first : Char} {rest : List Char} (hdigits : Digital (first :: rest))
    (hvalue : natOfDigits (first :: rest) = d.digits)
    (hexponent : exponent = rest.length + d.exponent) :
    Spells ((match first :: rest with
      | [] => []
      | [digit] => [digit]
      | first :: rest => first :: '.' :: rest) ++ exponentText exponent) d := by
  cases rest with
  | nil =>
    refine spells_unpointed hdigits (by simp) fun negative => ?_
    rw [hvalue, hexponent, List.length_nil, Int.natCast_zero, Int.zero_add]
  | cons next rest =>
    have hfirst : Digital [first] := by
      intro c hc
      exact hdigits c (List.mem_singleton.1 hc ▸ List.mem_cons_self)
    show Spells ([first] ++ '.' :: (next :: rest ++ exponentText exponent)) d
    refine spells_pointed hfirst (by simp)
      (fun c hc => hdigits c (List.mem_cons_of_mem first hc)) (.written exponent)
      fun negative => ?_
    rw [List.singleton_append, hvalue, hexponent]
    congr 1
    omega

lemma toList_scientific (mantissa : List Char) (exponent : Int) :
    (String.ofList mantissa ++ "e" ++ (if exponent < 0 then "-" else "+") ++
      toString exponent.natAbs).toList = mantissa ++ exponentText exponent := by
  rw [exponentText]
  split <;> simp [Nat.toString_eq_repr, Nat.toList_repr]

/-- However a decimal is laid out, the text spells it. -/
theorem spells_render (layout : FloatLayout) (d : Decimal) :
    Spells (layout.render d).toList d := by
  have hdigits : Digital (Nat.toDigits 10 d.digits) := digital_toDigits d.digits
  have hvalue : natOfDigits (Nat.toDigits 10 d.digits) = d.digits :=
    natOfDigits_toDigits d.digits
  have hne : Nat.toDigits 10 d.digits ≠ [] := Nat.toDigits_ne_nil
  rw [FloatLayout.render]
  generalize Nat.toDigits 10 d.digits = digits at *
  by_cases hzero : d.digits = 0
  · rw [if_pos hzero]
    exact spells_zero hzero
  rw [if_neg hzero]
  by_cases hpositional : layout.leastPoint ≤ digits.length + d.exponent ∧
      digits.length + d.exponent ≤ layout.greatestPoint
  · rw [if_pos hpositional]
    by_cases hwhole : (digits.length : Int) ≤ digits.length + d.exponent
    · rw [if_pos hwhole, String.toList_ofList]
      exact spells_whole hdigits hne hvalue (by omega)
    rw [if_neg hwhole]
    by_cases hinner : 0 < digits.length + d.exponent
    · rw [if_pos hinner, String.toList_ofList]
      exact spells_inner hdigits hvalue (by omega) (by omega) (by omega)
    · rw [if_neg hinner, String.toList_ofList]
      exact spells_small hdigits hvalue (by omega)
  · rw [if_neg hpositional]
    obtain ⟨first, rest, rfl⟩ := List.exists_cons_of_ne_nil hne
    dsimp only
    rw [toList_scientific]
    refine spells_scientific hdigits hvalue ?_
    rw [List.length_cons]
    omega

end Layouts

/-! ### Texts of numbers -/

lemma isBlank_signed (h : ∀ c ∈ text, Text.isBlank c = false) (negative : Bool) :
    ∀ c ∈ signed negative text, Text.isBlank c = false := by
  cases negative with
  | false => exact h
  | true => exact List.forall_mem_cons.2 ⟨rfl, h⟩

lemma isBlank_toString_int (n : Int) : ∀ c ∈ (toString n).toList, Text.isBlank c = false := by
  rw [toList_toString_int]
  exact isBlank_signed (fun c hc => isBlank_of_isDigit (digital_toDigits _ c hc)) _

lemma toList_text (x : Binary64) :
    x.text.toList = signed x.negative (FloatLayout.json.render x.shortest).toList := by
  rw [Binary64.text, String.toList_append, signed]
  split <;> rfl

lemma isBlank_text (x : Binary64) : ∀ c ∈ x.text.toList, Text.isBlank c = false := by
  rw [toList_text]
  exact isBlank_signed (spells_render _ _).isBlank_eq_false _

/-- The text of a double is read as the double. -/
theorem readFloat_text (x : Binary64) : readFloat x.text.toList = some (.finite x) := by
  have hspells := spells_render FloatLayout.json x.shortest
  obtain ⟨digits, exponent, hread, hvalue⟩ := hspells.reads
  rw [toList_text]
  exact readFloat_signed hspells.leads hread ((hvalue _).trans x.ofDecimal_shortest)

/-- The text of a double has a point or an exponent, so it is not read as a whole number. -/
theorem readInt_text (x : Binary64) : readInt x.text.toList = none := by
  have hspells := spells_render FloatLayout.json x.shortest
  have hall : (FloatLayout.json.render x.shortest).toList.all Char.isDigit = false := by
    rw [Bool.eq_false_iff, ne_eq, List.all_eq_true]
    exact hspells.notDigital
  simp [toList_text, readInt, splitSign_signed hspells.leads, readNat, hall]

/-- The nearest double of a whole number is that of its decimal. -/
lemma ofDecimal_natAbs (n : Integer) :
    Binary64.ofDecimal (decide (n.val < 0)) n.val.natAbs 0 = some n.toBinary64 := by
  have hlt : n.val.natAbs < 2 ^ 64 := by
    have := n.lower
    have := n.upper
    omega
  obtain ⟨x, hx⟩ := Option.isSome_iff_exists.1 (Binary64.isSome_ofNat (decide (n.val < 0)) hlt)
  rw [Binary64.ofDecimal_eq_ofNat hlt, Integer.toBinary64, hx, Option.getD_some]

/-- The text of a whole number is read as the nearest double. -/
theorem readFloat_integer (n : Integer) :
    readFloat n.text.toList = some (.finite n.toBinary64) := by
  have hdigits := digital_toDigits n.val.natAbs
  have hread : readDecimal (Nat.toDigits 10 n.val.natAbs) = some (n.val.natAbs, 0) := by
    have htail : ∀ c ∈ ([] : List Char).head?, c.isDigit = false := by simp
    have hwhole := hdigits.takeWhile_append htail
    have hrest := hdigits.dropWhile_append htail
    rw [List.append_nil] at hwhole hrest
    simp [readDecimal, hwhole, hrest, readExponent, natOfDigits_toDigits]
  rw [Integer.text, toList_toString_int]
  exact readFloat_signed (leads_toDigits _) hread (ofDecimal_natAbs n)

end Decimal

end OpenApiDoc
