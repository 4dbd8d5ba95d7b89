import OpenApiDoc.Proofs.Text.FileName

/-!
# File names as words

A name can be cut into its words, the longest runs of letters and digits, and the gaps around
them. Its file name is made of the words in order, with one separator for each gap between two of
them. So a file name never begins or ends with a separator and has no two of them side by side,
and it is the file name of itself.
-/

namespace OpenApiDoc.Text.FileName

variable {name text run : List Char} {c : Char} {words : List (List Char × List Char)}

/-! ### Cutting names -/

/-- A name cut at its words: each word with the gap before it, and the gap behind the last word.
No word is empty, and no gap between two words. -/
structure Cut (name : List Char) where
  words : List (List Char × List Char)
  last : List Char
  name_eq : name = words.flatMap (fun w => w.1 ++ w.2) ++ last
  word : ∀ w ∈ words, w.2 ≠ [] ∧ ∀ c ∈ w.2, c.isAlphanum = true
  gap : ∀ w ∈ words, ∀ c ∈ w.1, c.isAlphanum = false
  between : ∀ w ∈ words.tail, w.1 ≠ []
  last_gap : ∀ c ∈ last, c.isAlphanum = false

/-- The separator that stands for a gap. -/
def separator (gap : List Char) : Char := if gap.head? = some '-' then '-' else '_'

/-- Words with one separator for each gap between two of them. -/
def joined : List (List Char × List Char) → List Char
  | [] => []
  | (_, word) :: rest => word ++ rest.flatMap fun w => separator w.1 :: w.2

/-- Every name can be cut. -/
lemma nonempty_cut (name : List Char) : Nonempty (Cut name) := by
  induction name with
  | nil => exact ⟨[], [], rfl, nofun, nofun, nofun, nofun⟩
  | cons c rest ih =>
    obtain ⟨⟨words, last, hname, hword, hgap, hbetween, hlast⟩⟩ := ih
    cases hc : c.isAlphanum with
    | true =>
      rcases words with _ | ⟨⟨_ | ⟨g, gap⟩, word⟩, words⟩
      · -- the first word
        exact ⟨[([], [c])], last, by simp [hname], by simp [hc], by simp, by simp, hlast⟩
      · -- the first character of a word
        obtain ⟨hfirst, hwords⟩ := List.forall_mem_cons.1 hword
        refine ⟨([], c :: word) :: words, last, by simp [hname], ?_, ?_, hbetween, hlast⟩
        · refine List.forall_mem_cons.2 ⟨⟨List.cons_ne_nil _ _, ?_⟩, hwords⟩
          exact List.forall_mem_cons.2 ⟨hc, hfirst.2⟩
        · exact List.forall_mem_cons.2 (List.forall_mem_cons.1 hgap)
      · -- a word before a gap
        refine ⟨([], [c]) :: (g :: gap, word) :: words, last, by simp [hname], ?_, ?_, ?_, hlast⟩
        · exact List.forall_mem_cons.2 ⟨by simp [hc], hword⟩
        · exact List.forall_mem_cons.2 ⟨by simp, hgap⟩
        · exact List.forall_mem_cons.2 ⟨List.cons_ne_nil _ _, hbetween⟩
    | false =>
      rcases words with _ | ⟨⟨gap, word⟩, words⟩
      · exact ⟨[], c :: last, by simp [hname], nofun, nofun, nofun,
          List.forall_mem_cons.2 ⟨hc, hlast⟩⟩
      · obtain ⟨hfirst, hgaps⟩ := List.forall_mem_cons.1 hgap
        refine ⟨(c :: gap, word) :: words, last, by simp [hname], ?_, ?_, hbetween, hlast⟩
        · exact List.forall_mem_cons.2 (List.forall_mem_cons.1 hword)
        · exact List.forall_mem_cons.2 ⟨List.forall_mem_cons.2 ⟨hc, hfirst⟩, hgaps⟩

/-! ### Ends of what is joined -/

lemma head?_of_word {word : List Char} (hne : word ≠ [])
    (hword : ∀ c ∈ word, c.isAlphanum = true) (rest : List Char) :
    ∀ c ∈ (word ++ rest).head?, c.isAlphanum = true := by
  intro c hc
  rw [List.head?_append_of_ne_nil _ hne] at hc
  exact hword c (List.mem_of_mem_head? hc)

lemma getLast?_of_word {word : List Char} (hne : word ≠ [])
    (hword : ∀ c ∈ word, c.isAlphanum = true) (before : List Char) :
    ∀ c ∈ (before ++ word).getLast?, c.isAlphanum = true := by
  intro c hc
  rw [List.getLast?_append_of_ne_nil _ hne] at hc
  exact hword c (List.mem_of_getLast? hc)

lemma head?_joined (hwords : ∀ w ∈ words, w.2 ≠ [] ∧ ∀ c ∈ w.2, c.isAlphanum = true) :
    ∀ c ∈ (joined words).head?, c.isAlphanum = true := by
  rcases words with _ | ⟨⟨gap, word⟩, words⟩
  · nofun
  · obtain ⟨⟨hne, hword⟩, -⟩ := List.forall_mem_cons.1 hwords
    exact head?_of_word hne hword _

lemma getLast?_joined (hwords : ∀ w ∈ words, w.2 ≠ [] ∧ ∀ c ∈ w.2, c.isAlphanum = true) :
    ∀ c ∈ (joined words).getLast?, c.isAlphanum = true := by
  rcases words with _ | ⟨⟨gap, word⟩, words⟩
  · nofun
  · obtain ⟨⟨hne, hword⟩, hwords⟩ := List.forall_mem_cons.1 hwords
    rcases List.eq_nil_or_concat words with rfl | ⟨init, last, rfl⟩
    · rw [joined, List.flatMap_nil, List.append_nil]
      exact getLast?_of_word hne hword []
    · obtain ⟨hne, hword⟩ := hwords last (by simp)
      have hjoined : joined ((gap, word) :: (init.concat last)) =
          (word ++ init.flatMap (fun w => separator w.1 :: w.2) ++ [separator last.1]) ++
            last.2 := by
        simp [joined]
      rw [hjoined]
      exact getLast?_of_word hne hword _

/-- Of two neighbours one is no separator, as each separator stands before a word. -/
lemma isChain_joined (hwords : ∀ w ∈ words, w.2 ≠ [] ∧ ∀ c ∈ w.2, c.isAlphanum = true) :
    (joined words).IsChain fun a b => isSeparator a = false ∨ isSeparator b = false := by
  have hsingle : ∀ {word : List Char}, (∀ c ∈ word, c.isAlphanum = true) →
      word.IsChain fun a b => isSeparator a = false ∨ isSeparator b = false := by
    intro word hword
    refine (List.pairwise_of_forall_mem_list fun a ha b hb => ?_).isChain
    exact .inl (isSeparator_of_isAlphanum (hword a ha))
  have hrest : ∀ words : List (List Char × List Char),
      (∀ w ∈ words, w.2 ≠ [] ∧ ∀ c ∈ w.2, c.isAlphanum = true) →
      (words.flatMap fun w => separator w.1 :: w.2).IsChain fun a b =>
        isSeparator a = false ∨ isSeparator b = false := by
    intro words hwords
    induction words with
    | nil => exact .nil
    | cons w words ih =>
      obtain ⟨⟨hne, hword⟩, hwords⟩ := List.forall_mem_cons.1 hwords
      rw [List.flatMap_cons, List.isChain_append]
      refine ⟨List.isChain_cons.2 ⟨fun c hc => ?_, hsingle hword⟩, ih hwords, fun a ha b _ => ?_⟩
      · exact .inr (isSeparator_of_isAlphanum (hword c (List.mem_of_mem_head? hc)))
      · exact .inl (isSeparator_of_isAlphanum (getLast?_of_word hne hword [_] a ha))
  rcases words with _ | ⟨⟨gap, word⟩, words⟩
  · exact .nil
  · obtain ⟨⟨hne, hword⟩, hwords⟩ := List.forall_mem_cons.1 hwords
    rw [joined, List.isChain_append]
    refine ⟨hsingle hword, hrest words hwords, fun a ha b _ => ?_⟩
    exact .inl (isSeparator_of_isAlphanum (getLast?_of_word hne hword [] a ha))

/-! ### Names with one separator for each gap -/

/-- What is left of a gap, which may be empty. -/
def spacedGap (gap : List Char) : List Char := if gap = [] then [] else [separator gap]

lemma isSeparator_of_mem_spacedGap {gap : List Char} (h : c ∈ spacedGap gap) :
    isSeparator c = true := by
  rw [spacedGap] at h
  split at h
  · cases h
  · rw [List.mem_singleton.1 h, separator]
    split <;> rfl

lemma spaced_append {gap : List Char} (hgap : ∀ c ∈ gap, c.isAlphanum = false)
    (htext : ∀ c ∈ text.head?, c.isAlphanum = true) :
    spaced (gap ++ text) = spacedGap gap ++ spaced text := by
  rw [spacedGap]
  split
  · next hnil => rw [hnil, List.nil_append, List.nil_append]
  · next hne =>
    have hisGap : isGap gap = true := by simpa [isGap] using hgap
    rw [spaced_gap_append hne hisGap htext, shrink, if_pos hisGap]
    rfl

/-- The gaps of a name shrink, and its words stay. -/
lemma spaced_flatMap_append {last : List Char}
    (hwords : ∀ w ∈ words, w.2 ≠ [] ∧ ∀ c ∈ w.2, c.isAlphanum = true)
    (hgaps : ∀ w ∈ words, ∀ c ∈ w.1, c.isAlphanum = false)
    (hlast : ∀ c ∈ last, c.isAlphanum = false) :
    spaced (words.flatMap (fun w => w.1 ++ w.2) ++ last) =
      words.flatMap (fun w => spacedGap w.1 ++ w.2) ++ spacedGap last := by
  induction words with
  | nil =>
    have hspaced : spaced (last ++ []) = spacedGap last ++ spaced [] := spaced_append hlast nofun
    have hempty : spaced [] = [] := rfl
    rwa [hempty, List.append_nil, List.append_nil] at hspaced
  | cons w words ih =>
    obtain ⟨⟨hne, hword⟩, hwords⟩ := List.forall_mem_cons.1 hwords
    obtain ⟨hgap, hgaps⟩ := List.forall_mem_cons.1 hgaps
    simp only [List.flatMap_cons, List.append_assoc] at ih ⊢
    rw [spaced_append hgap (head?_of_word hne hword _), spaced_word_append hword,
      ih hwords hgaps]

/-! ### Trimming -/

/-- Separators around a text that has none at its ends are taken off. -/
lemma trim_append {before after : List Char} (hbefore : ∀ c ∈ before, isSeparator c = true)
    (hafter : ∀ c ∈ after, isSeparator c = true)
    (hhead : ∀ c ∈ text.head?, isSeparator c = false)
    (hlast : ∀ c ∈ text.getLast?, isSeparator c = false) :
    trim (before ++ (text ++ after)) = text := by
  rw [trim, List.dropWhile_append_of_pos hbefore]
  rcases text with _ | ⟨c, text⟩
  · rw [List.nil_append, List.dropWhile_eq_nil_iff.2 hafter]
    rfl
  · have hafter' : ∀ c ∈ after.reverse, isSeparator c = true := by simpa using hafter
    rw [List.cons_append, List.dropWhile_cons_of_neg (by simp [hhead c rfl]), ← List.cons_append,
      List.reverse_append, List.dropWhile_append_of_pos hafter']
    rcases hreverse : (c :: text).reverse with _ | ⟨b, rest⟩
    · simp at hreverse
    · have hb : isSeparator b = false := by
        refine hlast b ?_
        rw [← List.head?_reverse, hreverse]
        rfl
      rw [List.dropWhile_cons_of_neg (by simp [hb]), ← hreverse, List.reverse_reverse]

/-- The file name of a name that is cut. -/
lemma Cut.ofChars_eq (cut : Cut name) : ofChars name = joined cut.words := by
  obtain ⟨words, last, hname, hword, hgap, hbetween, hlast⟩ := cut
  have hspaced := hname ▸ spaced_flatMap_append hword hgap hlast
  rcases words with _ | ⟨⟨gap, word⟩, words⟩
  · calc ofChars name = trim (spaced name) := rfl
      _ = trim (spacedGap last ++ ([] ++ [])) := by rw [hspaced]; simp
      _ = [] := trim_append (fun c => isSeparator_of_mem_spacedGap) nofun nofun nofun
  · have hbody : words.flatMap (fun w => spacedGap w.1 ++ w.2) =
        words.flatMap fun w => separator w.1 :: w.2 := by
      refine List.flatMap_congr fun w hw => ?_
      rw [spacedGap, if_neg (hbetween w hw), List.singleton_append]
    calc ofChars name = trim (spaced name) := rfl
      _ = trim (spacedGap gap ++ (joined ((gap, word) :: words) ++ spacedGap last)) := by
        rw [hspaced, List.flatMap_cons, hbody, joined]
        simp only [List.append_assoc]
      _ = joined ((gap, word) :: words) :=
        trim_append (fun c => isSeparator_of_mem_spacedGap)
          (fun c => isSeparator_of_mem_spacedGap)
          (fun c hc => isSeparator_of_isAlphanum (head?_joined hword c hc))
          (fun c hc => isSeparator_of_isAlphanum (getLast?_joined hword c hc))

/-! ### File names of file names -/

/-- The separators of what is joined are its gaps. -/
lemma exists_cut_joined (hwords : ∀ w ∈ words, w.2 ≠ [] ∧ ∀ c ∈ w.2, c.isAlphanum = true) :
    ∃ cut : Cut (joined words), joined cut.words = joined words := by
  have hseparator : ∀ gap, separator [separator gap] = separator gap := by
    intro gap
    by_cases h : gap.head? = some '-' <;> simp [separator, h]
  have hsign : ∀ gap, (separator gap).isAlphanum = false := by
    intro gap
    rw [separator]
    split <;> rfl
  rcases words with _ | ⟨⟨gap, word⟩, words⟩
  · exact ⟨⟨[], [], rfl, nofun, nofun, nofun, nofun⟩, rfl⟩
  · obtain ⟨hfirst, hwords⟩ := List.forall_mem_cons.1 hwords
    refine ⟨⟨([], word) :: words.map fun w => ([separator w.1], w.2), [], ?_, ?_, ?_, ?_, nofun⟩,
      ?_⟩
    · simp [joined, List.flatMap_map]
    · exact List.forall_mem_cons.2 ⟨hfirst, List.forall_mem_map.2 hwords⟩
    · exact List.forall_mem_cons.2 ⟨nofun, List.forall_mem_map.2 fun w _ => by simp [hsign]⟩
    · exact List.forall_mem_map.2 fun w _ => List.cons_ne_nil _ _
    · simp [joined, List.flatMap_map, hseparator]

/-- The file name of a name is its words in order, joined by a hyphen for each gap between
them that begins with one, and by an underscore for any other. So it consists of letters,
digits, hyphens and underscores, with no separator at its ends and no two side by side, and
it is its own file name. -/
theorem ofName_exact (name : String) :
    (Nonempty (Cut name.toList) ∧
      ∀ cut : Cut name.toList, (ofName name).toList = joined cut.words) ∧
    (∀ c ∈ (ofName name).toList, c.isAlphanum = true ∨ c = '-' ∨ c = '_') ∧
    (∀ c, isSeparator c = true →
      c ∉ (ofName name).toList.head? ∧ c ∉ (ofName name).toList.getLast?) ∧
    (ofName name).toList.IsChain (fun a b => isSeparator a = false ∨ isSeparator b = false) ∧
    ofName (ofName name) = ofName name := by
  obtain ⟨cut⟩ := nonempty_cut name.toList
  have hname : (ofName name).toList = joined cut.words := by
    rw [ofName, String.toList_ofList, cut.ofChars_eq]
  refine ⟨⟨⟨cut⟩, fun cut => ?_⟩, fun c hc => ?_, fun c hc => ⟨fun hmem => ?_, fun hmem => ?_⟩,
    ?_, ?_⟩
  · rw [ofName, String.toList_ofList, cut.ofChars_eq]
  · have hallowed : isAllowed c = true := by
      rw [ofName, String.toList_ofList] at hc
      exact isAllowed_of_mem_ofChars hc
    simpa [isAllowed, isSeparator] using hallowed
  · rw [hname] at hmem
    rw [isSeparator_of_isAlphanum (head?_joined cut.word c hmem)] at hc
    cases hc
  · rw [hname] at hmem
    rw [isSeparator_of_isAlphanum (getLast?_joined cut.word c hmem)] at hc
    cases hc
  · rw [hname]
    exact isChain_joined cut.word
  · obtain ⟨cut', hcut'⟩ := exists_cut_joined cut.word
    rw [← String.toList_inj, ofName, hname, String.toList_ofList, cut'.ofChars_eq, hcut']

end OpenApiDoc.Text.FileName
