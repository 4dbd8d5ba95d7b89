import Mathlib.Data.List.DropRight
import Mathlib.Data.List.SplitBy
import OpenApiDoc.Text.FileName

/-!
# What file names keep of names

A name is made of runs: words of letters and digits, and gaps of other characters between them.
Its file name keeps the words. Of a gap it keeps only whether it begins with a hyphen, and of a
gap at either end nothing at all. This is the *wording* of the name.

The runs of the file name are the wording again (`Text.FileName.runs_ofChars`), so two names have
one file name just if they have one wording.
-/

namespace OpenApiDoc.Text.FileName

variable {name rest run : List Char} {rs : List (List Char)} {c : Char}

/-! ### Runs -/

/-- Whether two neighbours belong to one run. -/
def sameRun (a b : Char) : Bool := a.isAlphanum == b.isAlphanum

/-- The longest runs of letters and digits, and of other characters, in order. -/
def runs (name : List Char) : List (List Char) := name.splitBy sameRun

/-- Whether a run is a gap and no word. -/
def isGap (run : List Char) : Bool := run.all fun c => !c.isAlphanum

/-- What a file name keeps of a run: a word, or one separator for a gap. -/
def shrink (run : List Char) : List Char :=
  if isGap run then [if run.head? = some '-' then '-' else '_'] else run

/-- The runs of a name but for the gaps at its ends. -/
def innerRuns (name : List Char) : List (List Char) :=
  ((runs name).dropWhile isGap).rdropWhile isGap

/-- The words of a name, and a separator for each gap between two of them. -/
def wording (name : List Char) : List (List Char) := (innerRuns name).map shrink

/-- Words and gaps take turns. -/
structure InTurn (rs : List (List Char)) : Prop where
  nil_notMem : [] ∉ rs
  uniform : ∀ run ∈ rs, ∀ c ∈ run, isGap run = !c.isAlphanum
  turn : rs.IsChain fun a b => isGap a ≠ isGap b

lemma isAlphanum_of_isChain (h : run.IsChain fun a b => sameRun a b) {a b : Char} (ha : a ∈ run)
    (hb : b ∈ run) : a.isAlphanum = b.isAlphanum := by
  have hequal : (run.map Char.isAlphanum).IsChain (· = ·) := by
    rw [List.isChain_map]
    exact h.imp fun _ _ hab => beq_iff_eq.1 hab
  have hpairwise := List.isChain_iff_pairwise.1 hequal
  exact hpairwise.forall_of_forall (fun _ _ => rfl) (List.mem_map_of_mem ha)
    (List.mem_map_of_mem hb)

lemma inTurn_runs (name : List Char) : InTurn (runs name) := by
  have uniform : ∀ run ∈ runs name, ∀ c ∈ run, isGap run = !c.isAlphanum := by
    intro run hrun c hc
    have hchain := List.isChain_of_mem_splitBy hrun
    rw [isGap, Bool.eq_iff_iff, List.all_eq_true]
    constructor
    · exact fun h => h c hc
    · exact fun h b hb => isAlphanum_of_isChain hchain hb hc ▸ h
  refine ⟨List.nil_notMem_splitBy _ _, uniform, ?_⟩
  refine (List.isChain_getLast_head_splitBy sameRun name).imp_of_mem_imp ?_
  rintro a b ha hb ⟨hne, hne', hsame⟩
  rw [uniform a ha _ (List.getLast_mem hne), uniform b hb _ (List.head_mem hne')]
  simpa [sameRun] using hsame

/-- Runs that take turns are the runs of what they make together. -/
lemma InTurn.runs_flatten (h : InTurn rs) : runs rs.flatten = rs := by
  refine List.splitBy_flatten h.nil_notMem (fun run hrun => ?_) ?_
  · refine (List.pairwise_of_forall_mem_list fun a ha b hb => ?_).isChain
    have hequal := (h.uniform run hrun a ha).symm.trans (h.uniform run hrun b hb)
    simpa [sameRun] using hequal
  · refine h.turn.imp_of_mem_imp fun a b ha hb hne => ?_
    have ha' : a ≠ [] := fun e => h.nil_notMem (e ▸ ha)
    have hb' : b ≠ [] := fun e => h.nil_notMem (e ▸ hb)
    refine ⟨ha', hb', ?_⟩
    rw [h.uniform a ha _ (List.getLast_mem ha'), h.uniform b hb _ (List.head_mem hb')] at hne
    simpa [sameRun] using hne

lemma InTurn.of_isInfix {inner : List (List Char)} (h : InTurn rs) (hinner : inner <:+: rs) :
    InTurn inner where
  nil_notMem hnil := h.nil_notMem (hinner.subset hnil)
  uniform run hrun := h.uniform run (hinner.subset hrun)
  turn := h.turn.infix hinner

/-! ### Shrinking gaps -/

lemma isSeparator_of_isAlphanum (h : c.isAlphanum = true) : isSeparator c = false := by
  rw [isSeparator, Bool.or_eq_false_iff, beq_eq_false_iff_ne, beq_eq_false_iff_ne]
  constructor <;> rintro rfl <;> cases h

lemma shrink_of_gap (h : isGap run = true) :
    ∃ c, shrink run = [c] ∧ isSeparator c = true ∧ c.isAlphanum = false := by
  rw [shrink, if_pos h]
  split
  · exact ⟨'-', rfl, rfl, rfl⟩
  · exact ⟨'_', rfl, rfl, rfl⟩

lemma shrink_of_word (h : isGap run = false) : shrink run = run := by
  rw [shrink, h]
  rfl

lemma isGap_shrink (run : List Char) : isGap (shrink run) = isGap run := by
  rcases h : isGap run with _ | _
  · rw [shrink_of_word h, h]
  · obtain ⟨c, hshrink, -, hc⟩ := shrink_of_gap h
    rw [hshrink, isGap, List.all_cons, List.all_nil, hc]
    rfl

lemma InTurn.map_shrink (h : InTurn rs) : InTurn (rs.map shrink) where
  nil_notMem hnil := by
    obtain ⟨run, hrun, heq⟩ := List.mem_map.1 hnil
    rcases hgap : isGap run with _ | _
    · rw [shrink_of_word hgap] at heq
      exact h.nil_notMem (heq ▸ hrun)
    · obtain ⟨c, hshrink, -⟩ := shrink_of_gap hgap
      simp [hshrink] at heq
  uniform := by
    intro run' hrun' c hc
    obtain ⟨run, hrun, rfl⟩ := List.mem_map.1 hrun'
    rw [isGap_shrink]
    rcases hgap : isGap run with _ | _
    · rw [shrink_of_word hgap] at hc
      exact hgap ▸ h.uniform run hrun c hc
    · obtain ⟨c', hshrink, -, hc'⟩ := shrink_of_gap hgap
      rw [hshrink, List.mem_singleton] at hc
      rw [hc, hc', Bool.not_false]
  turn := by
    simpa only [List.isChain_map, isGap_shrink] using h.turn

/-! ### Replacing and collapsing -/

/-- A name with one separator in the place of each gap. -/
def spaced (name : List Char) : List Char := collapse false (replaceForbidden false name)

lemma isAllowed_of_isAlphanum (h : c.isAlphanum = true) : isAllowed c = true := by
  rw [isAllowed, h, Bool.true_or]

lemma spaced_cons_of_isAlphanum (h : c.isAlphanum = true) (rest : List Char) :
    spaced (c :: rest) = c :: spaced rest := by
  rw [spaced, replaceForbidden, if_pos (isAllowed_of_isAlphanum h), collapse,
    if_neg (by simp [isSeparator_of_isAlphanum h]), spaced]

lemma spaced_word_append (h : ∀ c ∈ run, c.isAlphanum = true) (rest : List Char) :
    spaced (run ++ rest) = run ++ spaced rest := by
  induction run with
  | nil => rfl
  | cons c run ih =>
    obtain ⟨hc, hrun⟩ := List.forall_mem_cons.1 h
    rw [List.cons_append, spaced_cons_of_isAlphanum hc, ih hrun, List.cons_append]

/-- Behind a separator, what is left of a gap leaves no trace. -/
lemma collapse_gap_append (h : ∀ c ∈ run, c.isAlphanum = false)
    (hrest : ∀ c ∈ rest.head?, c.isAlphanum = true) (within : Bool) :
    collapse true (replaceForbidden within (run ++ rest)) = spaced rest := by
  induction run generalizing within with
  | nil =>
    cases rest with
    | nil => rfl
    | cons c rest =>
      have hc := hrest c rfl
      rw [spaced_cons_of_isAlphanum hc, List.nil_append, replaceForbidden,
        if_pos (isAllowed_of_isAlphanum hc), collapse,
        if_neg (by simp [isSeparator_of_isAlphanum hc]), spaced]
  | cons c run ih =>
    obtain ⟨hc, hrun⟩ := List.forall_mem_cons.1 h
    rw [List.cons_append, replaceForbidden]
    split
    · next hallowed =>
      have hseparator : isSeparator c = true := by simpa [isAllowed, hc] using hallowed
      rw [collapse, if_pos hseparator, if_pos rfl, ih hrun]
    · split
      · exact ih hrun true
      · rw [collapse, if_pos (by rfl : isSeparator '_' = true), if_pos rfl, ih hrun]

lemma spaced_gap_append (hne : run ≠ []) (h : isGap run = true)
    (hrest : ∀ c ∈ rest.head?, c.isAlphanum = true) :
    spaced (run ++ rest) = shrink run ++ spaced rest := by
  rw [shrink, if_pos h]
  obtain ⟨c, run, rfl⟩ := List.exists_cons_of_ne_nil hne
  have hall : ∀ x ∈ c :: run, x.isAlphanum = false := by simpa [isGap] using h
  obtain ⟨hc, hrun⟩ := List.forall_mem_cons.1 hall
  rw [List.cons_append, spaced, replaceForbidden, List.head?_cons]
  split
  · -- the gap begins with a separator, which is kept as it is
    next hallowed =>
    have hseparator : isSeparator c = true := by simpa [isAllowed, hc] using hallowed
    rw [collapse, if_pos hseparator, if_neg (by simp), collapse_gap_append hrun hrest]
    rcases Bool.or_eq_true_iff.1 hseparator with hc | hc <;> simp [beq_iff_eq.1 hc]
  · next hallowed =>
    have hhyphen : c ≠ '-' := by
      rintro rfl
      exact hallowed rfl
    rw [if_neg (by simp), collapse, if_pos (by rfl : isSeparator '_' = true), if_neg (by simp),
      collapse_gap_append hrun hrest]
    simp [hhyphen]

lemma spaced_flatten (h : InTurn rs) : spaced rs.flatten = rs.flatMap shrink := by
  induction rs with
  | nil => rfl
  | cons run rs ih =>
    have hrun := h.uniform run List.mem_cons_self
    have hne : run ≠ [] := fun e => h.nil_notMem (e ▸ List.mem_cons_self)
    have hrs := h.of_isInfix (List.suffix_cons run rs).isInfix
    rw [List.flatten_cons, List.flatMap_cons, ← ih hrs]
    rcases hgap : isGap run with _ | _
    · have hword : ∀ c ∈ run, c.isAlphanum = true := by simpa [hgap] using hrun
      rw [shrink_of_word hgap, spaced_word_append hword]
    · refine spaced_gap_append hne hgap fun c hc => ?_
      -- the next run is a word
      cases rs with
      | nil => cases hc
      | cons next rs =>
        have hturn := (List.isChain_cons_cons.1 h.turn).1
        have hnext : next ≠ [] := fun e => hrs.nil_notMem (e ▸ List.mem_cons_self)
        have hmem : c ∈ next := by
          rw [List.flatten_cons, List.head?_append_of_ne_nil _ hnext] at hc
          exact List.mem_of_mem_head? hc
        rw [hgap, hrs.uniform next List.mem_cons_self c hmem] at hturn
        simpa using hturn

/-! ### Trimming -/

lemma dropWhile_flatMap_shrink (h : InTurn rs) :
    (rs.flatMap shrink).dropWhile isSeparator = (rs.dropWhile isGap).flatMap shrink := by
  induction rs with
  | nil => rfl
  | cons run rs ih =>
    rcases hgap : isGap run with _ | _
    · have hne : run ≠ [] := fun e => h.nil_notMem (e ▸ List.mem_cons_self)
      obtain ⟨c, run, rfl⟩ := List.exists_cons_of_ne_nil hne
      have hc : c.isAlphanum = true := by
        simpa [hgap] using h.uniform _ List.mem_cons_self c List.mem_cons_self
      rw [List.dropWhile_cons_of_neg (by simp [hgap]), List.flatMap_cons, shrink_of_word hgap,
        List.cons_append, List.dropWhile_cons_of_neg (by simp [isSeparator_of_isAlphanum hc])]
    · obtain ⟨c, hshrink, hc, -⟩ := shrink_of_gap hgap
      rw [List.dropWhile_cons_of_pos hgap, List.flatMap_cons, hshrink, List.singleton_append,
        List.dropWhile_cons_of_pos hc, ih (h.of_isInfix (List.suffix_cons run rs).isInfix)]

lemma rdropWhile_flatMap_shrink (h : InTurn rs) :
    (rs.flatMap shrink).rdropWhile isSeparator = (rs.rdropWhile isGap).flatMap shrink := by
  induction rs using List.reverseRecOn with
  | nil => rfl
  | append_singleton rs run ih =>
    have hlast : run ∈ rs ++ [run] := by simp
    rw [List.flatMap_append, List.flatMap_singleton]
    rcases hgap : isGap run with _ | _
    · have hne : run ≠ [] := fun e => h.nil_notMem (e ▸ hlast)
      obtain ⟨run, c, rfl⟩ := List.eq_nil_or_concat run |>.resolve_left hne
      rw [List.concat_eq_append] at *
      have hc : c.isAlphanum = true := by simpa [hgap] using h.uniform _ hlast c (by simp)
      rw [List.rdropWhile_concat_neg _ _ _ (by simp [hgap]), List.flatMap_append,
        List.flatMap_singleton, shrink_of_word hgap, ← List.append_assoc,
        List.rdropWhile_concat_neg _ _ _ (by simp [isSeparator_of_isAlphanum hc])]
    · obtain ⟨c, hshrink, hc, -⟩ := shrink_of_gap hgap
      rw [List.rdropWhile_concat_pos _ _ _ hgap, hshrink, List.rdropWhile_concat_pos _ _ _ hc,
        ih (h.of_isInfix (List.prefix_append rs [run]).isInfix)]

/-! ### File names -/

lemma inTurn_innerRuns (name : List Char) : InTurn (innerRuns name) := by
  have hdropped := (inTurn_runs name).of_isInfix (List.dropWhile_suffix isGap).isInfix
  exact hdropped.of_isInfix (List.rdropWhile_prefix isGap _).isInfix

/-- The file name of a name is its wording. -/
theorem ofChars_eq_flatten_wording (name : List Char) :
    ofChars name = (wording name).flatten := by
  have hruns := inTurn_runs name
  have hdropped := hruns.of_isInfix (List.dropWhile_suffix isGap).isInfix
  have hspaced : spaced name = (runs name).flatMap shrink := by
    rw [← spaced_flatten hruns, runs, List.flatten_splitBy]
  calc ofChars name = ((spaced name).dropWhile isSeparator).rdropWhile isSeparator := rfl
    _ = (((runs name).dropWhile isGap).flatMap shrink).rdropWhile isSeparator := by
      rw [hspaced, dropWhile_flatMap_shrink hruns]
    _ = (innerRuns name).flatMap shrink := rdropWhile_flatMap_shrink hdropped

example : ofChars "__Order -Item, (old)--".toList = "Order_Item_old".toList := by decide

/-- The wording of a name can be read off its file name. -/
theorem runs_ofChars (name : List Char) : runs (ofChars name) = wording name := by
  rw [ofChars_eq_flatten_wording, wording, (inTurn_innerRuns name).map_shrink.runs_flatten]

/-- Names have one file name just if they have one wording. -/
theorem ofName_eq_iff {a b : String} :
    ofName a = ofName b ↔ wording a.toList = wording b.toList := by
  rw [ofName, ofName, String.ofList_inj]
  constructor
  · intro h
    rw [← runs_ofChars, ← runs_ofChars, h]
  · intro h
    rw [ofChars_eq_flatten_wording, ofChars_eq_flatten_wording, h]

lemma isAllowed_of_mem_ofChars (h : c ∈ ofChars name) : isAllowed c = true := by
  rw [ofChars_eq_flatten_wording, wording, ← List.flatMap_def] at h
  obtain ⟨run, hrun, hc⟩ := List.mem_flatMap.1 h
  rcases hgap : isGap run with _ | _
  · rw [shrink_of_word hgap] at hc
    have halphanum := (inTurn_innerRuns name).uniform run hrun c hc
    exact isAllowed_of_isAlphanum (by simpa [hgap] using halphanum)
  · obtain ⟨separator, hshrink, hseparator, -⟩ := shrink_of_gap hgap
    rw [hshrink, List.mem_singleton] at hc
    rw [isAllowed, hc, hseparator, Bool.or_true]

/-- A file name has no slash. -/
lemma ne_slash_of_mem_ofName {name : String} (h : c ∈ (ofName name).toList) : c ≠ '/' := by
  rw [ofName, String.toList_ofList] at h
  rintro rfl
  cases isAllowed_of_mem_ofChars h

end OpenApiDoc.Text.FileName
