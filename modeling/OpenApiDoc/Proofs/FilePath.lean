import OpenApiDoc.FilePath
import OpenApiDoc.Proofs.Text.Segments

/-!
# What file paths designate

A path *descends* if it names something below the folder that it is read in: it is not empty, and
no part of it leads anywhere but down. The parts of a descending path below a folder are the
parts of the folder and then its own.

A link is resolved from a folder part by part, where two dots lead to the folder above.
-/

namespace OpenApiDoc

namespace FilePath

variable {folder above : List Component} {a b : List Char}

/-! ### Components -/

lemma namedParts_append (parts parts' : List (List Char)) :
    namedParts (parts ++ parts') = namedParts parts ++ namedParts parts' := by
  simp [namedParts]

/-- What a path designates depends on how it begins and on its named parts. -/
lemma components_eq_append {named : List Component} (hhead : a.head? = b.head?)
    (hfirst : (Text.segments (· == '/') a).head? = (Text.segments (· == '/') b).head?)
    (hnamed : namedParts (Text.segments (· == '/') a) =
      namedParts (Text.segments (· == '/') b) ++ named) :
    components a = components b ++ named := by
  simp only [components, hhead, hfirst, hnamed]
  split
  · rfl
  · split <;> rfl

/-- A path behind a folder and a slash. -/
lemma components_slash_append (b : List Char) (ha : a ≠ []) :
    components (a ++ '/' :: b) = components a ++ namedParts (Text.segments (· == '/') b) := by
  have hsegments : Text.segments (· == '/') (a ++ '/' :: b) =
      Text.segments (· == '/') a ++ Text.segments (· == '/') b :=
    Text.segments_append_cons a rfl
  apply components_eq_append
  · exact List.head?_append_of_ne_nil a ha
  · rw [hsegments, List.head?_append_of_ne_nil _ (Text.segments_ne_nil _ _)]
  · rw [hsegments, namedParts_append]

/-- A path behind a folder that ends in a slash. -/
lemma components_append_of_slash (a b : List Char) :
    components (a ++ '/' :: b) =
      components (a ++ ['/']) ++ namedParts (Text.segments (· == '/') b) := by
  have hsegments : ∀ b, Text.segments (· == '/') (a ++ '/' :: b) =
      Text.segments (· == '/') a ++ Text.segments (· == '/') b :=
    fun b => Text.segments_append_cons a rfl
  apply components_eq_append
  · cases a <;> rfl
  · rw [hsegments, hsegments, List.head?_append_of_ne_nil _ (Text.segments_ne_nil _ _),
      List.head?_append_of_ne_nil _ (Text.segments_ne_nil _ _)]
  · rw [hsegments, hsegments, namedParts_append, namedParts_append]
    simp [Text.segments, namedParts]

/-! ### Paths that descend -/

lemma components_of_relative (hhead : a.head? ≠ some '/')
    (hfirst : (Text.segments (· == '/') a).head? ≠ some ['.']) :
    components a = namedParts (Text.segments (· == '/') a) := by
  simp only [components, if_neg hhead, if_neg hfirst]

/-- A component leads down, to something that it names. -/
def Component.Down : Component → Prop
  | .named name => name ≠ ['.', '.']
  | _ => False

instance (c : Component) : Decidable c.Down :=
  match c with
  | .named name => inferInstanceAs (Decidable (name ≠ ['.', '.']))
  | .root | .current => isFalse id

/-- A path leads down from any folder. -/
structure Descends (path : List Char) : Prop where
  ne_nil : components path ≠ []
  down : ∀ c ∈ components path, c.Down

namespace Descends

lemma head?_ne (h : Descends a) : a.head? ≠ some '/' := by
  intro hhead
  have hroot := h.down .root (by simp [components, hhead])
  exact hroot

lemma first_ne (h : Descends a) : (Text.segments (· == '/') a).head? ≠ some ['.'] := by
  intro hfirst
  have hcurrent := h.down .current (by simp [components, h.head?_ne, hfirst])
  exact hcurrent

lemma components_eq (h : Descends a) : components a = namedParts (Text.segments (· == '/') a) :=
  components_of_relative h.head?_ne h.first_ne

lemma path_ne_nil (h : Descends a) : a ≠ [] := by
  rintro rfl
  exact h.ne_nil rfl

end Descends

/-- A descending path below a folder. -/
lemma components_join (parent : String) {child : String} (h : Descends child.toList) :
    components (join parent child).toList =
      components parent.toList ++ components child.toList := by
  rw [join, if_neg h.head?_ne, h.components_eq]
  rcases List.eq_nil_or_concat parent.toList with hnil | ⟨init, last, hparent⟩
  · rw [hnil]
    exact h.components_eq
  rw [List.concat_eq_append] at hparent
  rw [hparent, List.getLast?_concat]
  by_cases hslash : last = '/'
  · subst hslash
    simp only [if_true, String.toList_append, hparent, List.append_assoc, List.singleton_append]
    exact components_append_of_slash init child.toList
  · simp only [if_neg hslash, String.toList_append, hparent, List.append_assoc]
    rw [← List.append_assoc]
    exact components_slash_append child.toList (by simp)

/-- Relative paths below one folder differ as the paths themselves do. -/
lemma join_inj (folder : String) {a b : String} (ha : a.toList.head? ≠ some '/')
    (hb : b.toList.head? ≠ some '/') : join folder a = join folder b ↔ a = b := by
  rw [join, join, if_neg ha, if_neg hb]
  split
  · rfl
  · split
    · exact String.append_right_inj _
    · exact String.append_right_inj _

lemma descends_join {parent child : String} (hparent : Descends parent.toList)
    (hchild : Descends child.toList) : Descends (join parent child).toList := by
  have hcomponents := components_join parent hchild
  constructor
  · rw [hcomponents]
    exact List.append_ne_nil_of_left_ne_nil hparent.ne_nil _
  · rw [hcomponents]
    exact List.forall_mem_append.2 ⟨hparent.down, hchild.down⟩

/-- A segment of three characters or more names something. -/
lemma namedParts_of_length (hlength : 3 ≤ a.length) : namedParts [a] = [.named a] := by
  have hempty : a ≠ [] := by
    rintro rfl
    cases hlength
  have hdot : a ≠ ['.'] := by
    rintro rfl
    simp at hlength
  simp [namedParts, hempty, hdot]

/-- The name of a file is one component. -/
lemma components_of_name (hslash : ∀ c ∈ a, c ≠ '/') (hlength : 3 ≤ a.length) :
    components a = [.named a] := by
  have hsegments : Text.segments (· == '/') a = [a] :=
    Text.segments_of_forall fun c hc => beq_false_of_ne (hslash c hc)
  rw [components_of_relative, hsegments, namedParts_of_length hlength]
  · intro hhead
    exact hslash '/' (List.mem_of_head? hhead) rfl
  · rw [hsegments]
    intro hfirst
    cases hfirst
    simp at hlength

lemma descends_of_name (hslash : ∀ c ∈ a, c ≠ '/') (hlength : 3 ≤ a.length) : Descends a := by
  have hcomponents := components_of_name hslash hlength
  constructor
  · simp [hcomponents]
  · rw [hcomponents, List.forall_mem_singleton]
    rintro rfl
    simp at hlength

/-- With an extension a path still descends. -/
lemma Descends.append {extension : List Char} (h : Descends a)
    (hslash : ∀ c ∈ extension, c ≠ '/') (hlength : 3 ≤ extension.length) :
    Descends (a ++ extension) := by
  obtain ⟨init, last, hsegments, happend⟩ :=
    Text.segments_append_of_forall (p := (· == '/')) a fun c hc => beq_false_of_ne (hslash c hc)
  have hlast : 3 ≤ (last ++ extension).length := by
    rw [List.length_append]
    omega
  have hfirst : (init ++ [last ++ extension]).head? ≠ some ['.'] := by
    have hne := h.first_ne
    rw [hsegments] at hne
    cases init with
    | nil =>
      intro hhead
      rw [show last ++ extension = ['.'] from Option.some.inj hhead] at hlast
      simp at hlast
    | cons first more => exact hne
  have hcomponents : components (a ++ extension) =
      namedParts init ++ [.named (last ++ extension)] := by
    rw [components_of_relative, happend, namedParts_append, namedParts_of_length hlast]
    · rw [List.head?_append_of_ne_nil _ h.path_ne_nil]
      exact h.head?_ne
    · rwa [happend]
  have hinit : ∀ c ∈ namedParts init, c.Down := by
    intro c hc
    apply h.down
    rw [h.components_eq, hsegments, namedParts_append]
    exact List.mem_append_left _ hc
  constructor
  · simp [hcomponents]
  · rw [hcomponents, List.forall_mem_append, List.forall_mem_singleton]
    refine ⟨hinit, ?_⟩
    intro hdots
    rw [hdots] at hlast
    simp at hlast

/-! ### Resolving a link -/

/-- The folder above a folder. -/
def parent (folder : List Component) : List Component :=
  match folder.getLast? with
  | some .root => folder
  | some (.named name) =>
    if name = ['.', '.'] then folder ++ [.named ['.', '.']] else folder.dropLast
  | _ => folder ++ [.named ['.', '.']]

/-- Where a part of a link leads from a folder. -/
def follow (folder : List Component) : Component → List Component
  | .root => [.root]
  | .current => folder
  | .named name => if name = ['.', '.'] then parent folder else folder ++ [.named name]

/-- What a link designates in a document of a folder. -/
def resolve (folder : List Component) (link : String) : List Component :=
  (components link.toList).foldl follow folder

lemma follow_of_down {c : Component} (h : c.Down) : follow folder c = folder ++ [c] := by
  cases c with
  | named name => exact if_neg h
  | _ => exact h.elim

lemma parent_concat {c : Component} (h : c.Down) : parent (folder ++ [c]) = folder := by
  cases c with
  | named name =>
    rw [parent, List.getLast?_concat]
    exact (if_neg h).trans List.dropLast_concat
  | _ => exact h.elim

lemma foldl_follow_of_down {parts : List Component} (h : ∀ c ∈ parts, c.Down)
    (folder : List Component) : parts.foldl follow folder = folder ++ parts := by
  induction parts generalizing folder with
  | nil => simp
  | cons c rest ih =>
    obtain ⟨hc, hrest⟩ := List.forall_mem_cons.1 h
    rw [List.foldl_cons, follow_of_down hc, ih hrest, List.append_assoc, List.singleton_append]

/-- A descending link leads to what it designates below the folder. -/
lemma resolve_of_descends {link : String} (h : Descends link.toList) (folder : List Component) :
    resolve folder link = folder ++ components link.toList :=
  foldl_follow_of_down h.down folder

/-- A link by way of the folder above. -/
lemma resolve_join_above {link : String} (h : Descends link.toList) (folder : List Component) :
    resolve folder (join ".." link) = parent folder ++ components link.toList := by
  have habove : components "..".toList = [.named ['.', '.']] := by decide
  rw [resolve, components_join ".." h, habove, List.singleton_append, List.foldl_cons]
  exact foldl_follow_of_down h.down (parent folder)

end FilePath

end OpenApiDoc
