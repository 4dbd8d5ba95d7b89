import OpenApiDoc.Example.Request
import OpenApiDoc.Proofs.Text.Form
import OpenApiDoc.Proofs.Text.Replace

/-!
# Path templates

A path template consists of literals and of the places of path parameters, the slots. Putting a
value into a text in place of a placeholder is putting it into the slots of the template: a
literal holds no brace, so a placeholder begins where a slot does, and the names of two slots
have the same placeholder only if they are the same. Values are written without braces, so that
nothing that is put in is taken for a placeholder later on.
-/

namespace OpenApiDoc.Example

/-- A piece of a path template. -/
inductive Piece where
  | literal (text : List Char)
  | slot (name : String)

/-- A text holds no brace. -/
def BraceFree (text : List Char) : Prop := '\x7b' ∉ text ∧ '\x7d' ∉ text

instance (text : List Char) : Decidable (BraceFree text) :=
  inferInstanceAs (Decidable ('\x7b' ∉ text ∧ '\x7d' ∉ text))

lemma braceFree_encodeValue (value : Json) : BraceFree (encodeValue value).toList := by
  rw [encodeValue, String.toList_ofList]
  exact ⟨Text.Form.not_mem_encode (by decide) _, Text.Form.not_mem_encode (by decide) _⟩

/-- Placeholders of different names do not begin alike. -/
lemma eq_of_placeholder_begins {name other : String} {rest : List Char}
    (hname : BraceFree name.toList) (hother : BraceFree other.toList)
    (h : placeholder name <+: placeholder other ++ rest) : name = other := by
  have htakes : ∀ text more : List Char, '\x7d' ∉ text →
      (text ++ '\x7d' :: more).takeWhile (· ≠ '\x7d') = text := by
    intro text more hmem
    rw [List.takeWhile_append_of_pos]
    · simp
    · intro c hc
      simpa using ne_of_mem_of_not_mem hc hmem
  obtain ⟨more, hmore⟩ := h
  simp only [placeholder, List.cons_append, List.append_assoc, List.cons.injEq, true_and,
    List.nil_append] at hmore
  have htaken := congrArg (List.takeWhile (· ≠ '\x7d')) hmore
  rw [htakes _ _ hname.2, htakes _ _ hother.2] at htaken
  exact String.toList_injective htaken

namespace Piece

/-- The text of a piece: a slot is written as the placeholder of its name. -/
def text : Piece → List Char
  | .literal text => text
  | .slot name => placeholder name

/-- Braces stand for slots only, and no name of a slot holds a question mark. -/
def Plain : Piece → Prop
  | .literal text => BraceFree text
  | .slot name => BraceFree name.toList ∧ '?' ∉ name.toList

/-- Put a text into the slots of a name. -/
def put (name : String) (value : List Char) : Piece → Piece
  | .literal text => .literal text
  | .slot other => if other = name then .literal value else .slot other

/-- Put values into the slots of their names at once. -/
def fill (values : List (String × Json)) : Piece → Piece
  | .literal text => .literal text
  | .slot name =>
    match Entries.get? name values with
    | some value => .literal (encodeValue value).toList
    | none => .slot name

/-- Whether a literal holds a question mark. -/
def isMarked : Piece → Bool
  | .literal text => text.contains '?'
  | .slot _ => false

variable {piece : Piece} {name : String} {value : List Char}

lemma Plain.put (h : piece.Plain) (hvalue : BraceFree value) : (piece.put name value).Plain := by
  cases piece with
  | literal text => exact h
  | slot other =>
    rw [Piece.put]
    split
    · exact hvalue
    · exact h

lemma Plain.contains_text (h : piece.Plain) : piece.text.contains '?' = piece.isMarked := by
  cases piece with
  | literal text => rfl
  | slot other => simp [text, isMarked, placeholder, h.2]

lemma isMarked_put (hvalue : '?' ∉ value) :
    (piece.put name value).isMarked = piece.isMarked := by
  cases piece with
  | literal text => rfl
  | slot other =>
    rw [put]
    split
    · simp [isMarked, hvalue]
    · rfl

@[simp] lemma fill_nil (piece : Piece) : piece.fill [] = piece := by
  cases piece <;> rfl

/-- Filling slots is putting the values into them one after the other. -/
lemma fill_cons (value : Json) (values : List (String × Json)) (piece : Piece) :
    piece.fill ((name, value) :: values) =
      (piece.put name (encodeValue value).toList).fill values := by
  cases piece with
  | literal text => rfl
  | slot other =>
    rw [put, fill, Entries.get?]
    by_cases hname : name = other
    · subst hname
      simp [fill]
    · simp [fill, hname, Ne.symm hname]

lemma map_fill_nil (pieces : List Piece) : pieces.map (fill []) = pieces := by
  rw [List.map_congr_left fun piece _ => piece.fill_nil, List.map_id']

lemma map_fill_cons (name : String) (value : Json) (values : List (String × Json))
    (pieces : List Piece) :
    pieces.map (fill ((name, value) :: values)) =
      (pieces.map (put name (encodeValue value).toList)).map (fill values) := by
  rw [List.map_map]
  exact List.map_congr_left fun piece _ => fill_cons value values piece

lemma any_isMarked_put (hvalue : '?' ∉ value) (name : String) (pieces : List Piece) :
    (pieces.map (put name value)).any isMarked = pieces.any isMarked := by
  rw [List.any_map]
  exact congrArg (List.any pieces) (funext fun piece => isMarked_put hvalue)

end Piece

/-- The text of a template. -/
def templateText (pieces : List Piece) : List Char := pieces.flatMap Piece.text

variable {pieces : List Piece} {name : String} {value : List Char}

lemma templateText_cons (piece : Piece) (pieces : List Piece) :
    templateText (piece :: pieces) = piece.text ++ templateText pieces := List.flatMap_cons

lemma templateText_append (pieces more : List Piece) :
    templateText (pieces ++ more) = templateText pieces ++ templateText more :=
  List.flatMap_append

lemma contains_templateText (plain : ∀ piece ∈ pieces, piece.Plain) :
    (templateText pieces).contains '?' = pieces.any Piece.isMarked := by
  induction pieces with
  | nil => rfl
  | cons piece rest ih =>
    obtain ⟨hpiece, hrest⟩ := List.forall_mem_cons.1 plain
    rw [templateText_cons, List.any_cons, ← hpiece.contains_text, ← ih hrest,
      List.contains_append]

/-- A slot of another name is passed over. -/
lemma replace_placeholder_of_ne {other : String} {rest : List Char}
    (hname : BraceFree name.toList) (hother : BraceFree other.toList) (hne : other ≠ name) :
    Text.replace (placeholder name) value (placeholder other ++ rest) =
      placeholder other ++ Text.replace (placeholder name) value rest := by
  have hbegins : ¬ placeholder name <+: placeholder other ++ rest :=
    fun h => hne (eq_of_placeholder_begins hname hother h).symm
  -- only the first character of the other placeholder can begin one
  have hafter : '\x7b' ∉ other.toList ++ ['\x7d'] := by simp [hother.1]
  have hcons : placeholder other = '\x7b' :: (other.toList ++ ['\x7d']) := rfl
  rw [hcons, List.cons_append] at hbegins ⊢
  rw [Text.replace_cons_of_not_begins hbegins, placeholder, List.cons_append,
    Text.replace_append_of_not_mem hafter, List.cons_append]

/-- To replace the placeholder of a name in the text of a template is to put the value into the
slots of that name. -/
theorem replace_templateText (plain : ∀ piece ∈ pieces, piece.Plain)
    (hname : BraceFree name.toList) :
    Text.replace (placeholder name) value (templateText pieces) =
      templateText (pieces.map (Piece.put name value)) := by
  induction pieces with
  | nil => rfl
  | cons piece rest ih =>
    obtain ⟨hpiece, hrest⟩ := List.forall_mem_cons.1 plain
    rw [List.map_cons, templateText_cons, templateText_cons, ← ih hrest]
    cases piece with
    | literal text => exact Text.replace_append_of_not_mem hpiece.1
    | slot other =>
      rw [Piece.put]
      by_cases hother : other = name
      · subst hother
        rw [if_pos rfl]
        exact Text.replace_append_self
      · rw [if_neg hother]
        exact replace_placeholder_of_ne hname hpiece.1 hother

/-! ### Queries -/

/-- A query parameter behind a path that holds a question mark already, or not. -/
def queryEntry (marked : Bool) (name : String) (value : Json) : List Char :=
  (if marked then '&' else '?') :: name.toList ++ '=' :: (encodeValue value).toList

/-- Query parameters behind a path: the first one brings the question mark, if there is none. -/
def queryText (marked : Bool) : List (String × Json) → List Char
  | [] => []
  | (name, value) :: rest => queryEntry marked name value ++ queryText true rest

lemma braceFree_queryEntry (marked : Bool) (hname : BraceFree name.toList) (value : Json) :
    BraceFree (queryEntry marked name value) := by
  have hvalue := braceFree_encodeValue value
  rw [queryEntry]
  constructor
  · cases marked <;> simp [hname.1, hvalue.1]
  · cases marked <;> simp [hname.2, hvalue.2]

/-- Behind a query parameter the path holds a question mark. -/
lemma any_isMarked_append_queryEntry (pieces : List Piece) (name : String) (value : Json) :
    (pieces ++ [Piece.literal (queryEntry (pieces.any Piece.isMarked) name value)]).any
      Piece.isMarked = true := by
  rw [List.any_append]
  cases pieces.any Piece.isMarked <;> simp [Piece.isMarked, queryEntry]

end OpenApiDoc.Example
