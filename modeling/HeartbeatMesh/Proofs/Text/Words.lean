import HeartbeatMesh.Text.Blank
import Mathlib.Data.List.Basic

/-!
# Words and the blanks around them

The words of a line are what it says, and the blanks around them are how it is laid out. There may
be any blanks before the first word and behind the last one, and there are some between two words,
or the two would be one (`IsSpaced`). Every line is laid out in this way, and by one list of words
only, which is the one that is read off it (`isSpaced_iff`).
-/

namespace HeartbeatMesh.Text

variable {c : Char} {cs gap w rest : List Char} {ws : List (List Char)}

/-- The characters of a word. -/
structure IsWord (w : List Char) : Prop where
  nonempty : w ≠ []
  blankless : ∀ c ∈ w, isBlank c = false

/-- Characters that are these words with blanks around them. A word ends at a blank or where all
ends. -/
inductive Spaced : List Char → List (List Char) → Prop
  | blanks {gap : List Char} (hgap : ∀ c ∈ gap, isBlank c = true) : Spaced gap []
  | word {gap w rest : List Char} {ws : List (List Char)} (hgap : ∀ c ∈ gap, isBlank c = true)
      (hw : IsWord w) (hend : ∀ c ∈ rest.head?, isBlank c = true) (h : Spaced rest ws) :
      Spaced (gap ++ (w ++ rest)) (w :: ws)

/-- The line is these words with blanks around them. -/
def IsSpaced (line : String) (ws : List String) : Prop :=
  Spaced line.toList (ws.map String.toList)

/-! ## Reading words -/

theorem consWord_blank (hc : isBlank c = true) (p : Bool × List (List Char)) :
    consWord c p = (false, p.2) :=
  if_pos hc

/-- With no word open behind it, a character begins a word. -/
theorem consWord_closed (hc : isBlank c = false) (ws : List (List Char)) :
    consWord c (false, ws) = (true, [c] :: ws) :=
  if_neg (by rw [hc]; exact Bool.false_ne_true)

theorem consWord_open (hc : isBlank c = false) (w : List Char) (ws : List (List Char)) :
    consWord c (true, w :: ws) = (true, (c :: w) :: ws) :=
  if_neg (by rw [hc]; exact Bool.false_ne_true)

theorem wordsOf_gap (hgap : ∀ c ∈ gap, isBlank c = true) (cs : List Char) :
    wordsOf (gap ++ cs) = wordsOf cs := by
  induction gap with
  | nil => rfl
  | cons c gap ih =>
    obtain ⟨hc, hgap⟩ := List.forall_mem_cons.mp hgap
    rw [← ih hgap, List.cons_append, wordsOf, List.foldr_cons, consWord_blank hc, wordsOf]

/-- Before a blank, and at the end, no word is open. -/
theorem foldr_consWord_eq (hend : ∀ c ∈ rest.head?, isBlank c = true) :
    rest.foldr consWord (false, []) = (false, wordsOf rest) := by
  cases rest with
  | nil => rfl
  | cons c rest => rw [wordsOf, List.foldr_cons, consWord_blank (hend c rfl)]

theorem foldr_consWord_word (hw : IsWord w) (ws : List (List Char)) :
    w.foldr consWord (false, ws) = (true, w :: ws) := by
  obtain ⟨hne, hblankless⟩ := hw
  induction w with
  | nil => exact absurd rfl hne
  | cons c w ih =>
    obtain ⟨hc, hw⟩ := List.forall_mem_cons.mp hblankless
    rw [List.foldr_cons]
    cases w with
    | nil => exact consWord_closed hc ws
    | cons d w => rw [ih (List.cons_ne_nil d w) hw, consWord_open hc]

theorem wordsOf_word (hw : IsWord w) (hend : ∀ c ∈ rest.head?, isBlank c = true) :
    wordsOf (w ++ rest) = w :: wordsOf rest := by
  rw [wordsOf, List.foldr_append, foldr_consWord_eq hend, foldr_consWord_word hw]

/-- The words of a layout are those that are read. -/
theorem Spaced.wordsOf_eq (h : Spaced cs ws) : wordsOf cs = ws := by
  induction h with
  | @blanks gap hgap => rw [← List.append_nil gap, wordsOf_gap hgap, wordsOf, List.foldr_nil]
  | word hgap hw hend _ ih => rw [wordsOf_gap hgap, wordsOf_word hw hend, ih]

/-! ## Layouts -/

theorem Spaced.cons_blank (hc : isBlank c = true) (h : Spaced cs ws) : Spaced (c :: cs) ws := by
  cases h with
  | blanks hgap => exact .blanks (List.forall_mem_cons.mpr ⟨hc, hgap⟩)
  | word hgap hw hend h => exact .word (List.forall_mem_cons.mpr ⟨hc, hgap⟩) hw hend h

theorem Spaced.word_cons (hw : IsWord w) (hend : ∀ c ∈ rest.head?, isBlank c = true)
    (h : Spaced rest ws) : Spaced (w ++ rest) (w :: ws) :=
  @Spaced.word [] w rest ws (List.forall_mem_nil _) hw hend h

/-- A character joins the word behind it, or it is a word of its own if a blank comes behind it or
nothing. -/
theorem Spaced.exists_cons (hc : isBlank c = false) (h : Spaced cs ws) :
    ∃ ws', Spaced (c :: cs) ws' := by
  have halone (hend : ∀ d ∈ cs.head?, isBlank d = true) : ∃ ws', Spaced (c :: cs) ws' := by
    have hword : IsWord [c] := ⟨List.cons_ne_nil c [], List.forall_mem_singleton.mpr hc⟩
    exact ⟨_, h.word_cons hword hend⟩
  cases h with
  | blanks hgap => exact halone fun d hd ↦ hgap d (List.mem_of_mem_head? hd)
  | @word gap w rest ws hgap hw hend h =>
    cases gap with
    | nil =>
      have hword : IsWord (c :: w) :=
        ⟨List.cons_ne_nil c w, List.forall_mem_cons.mpr ⟨hc, hw.blankless⟩⟩
      exact ⟨_, h.word_cons hword hend⟩
    | cons d gap =>
      refine halone fun d' hd' ↦ hgap d' ?_
      rw [Option.mem_some_iff.mp hd']
      exact List.mem_cons_self

/-- Every line is laid out as some words. -/
theorem exists_spaced (cs : List Char) : ∃ ws, Spaced cs ws := by
  induction cs with
  | nil => exact ⟨[], .blanks (List.forall_mem_nil _)⟩
  | cons c cs ih =>
    obtain ⟨ws, h⟩ := ih
    cases hc : isBlank c with
    | true => exact ⟨ws, h.cons_blank hc⟩
    | false => exact h.exists_cons hc

theorem spaced_iff : Spaced cs ws ↔ wordsOf cs = ws := by
  refine ⟨Spaced.wordsOf_eq, ?_⟩
  rintro rfl
  obtain ⟨ws, h⟩ := exists_spaced cs
  rwa [h.wordsOf_eq]

/-- A line is laid out as its words and as no others. -/
theorem isSpaced_iff {line : String} {ws : List String} : IsSpaced line ws ↔ words line = ws := by
  rw [IsSpaced, spaced_iff, words]
  constructor
  · intro h
    rw [h]
    simp
  · rintro rfl
    simp

/-- A line of blanks has no words. -/
theorem words_of_isBlankLine {line : String} (h : isBlankLine line = true) : words line = [] :=
  isSpaced_iff.mp (.blanks (List.all_eq_true.mp h))

end HeartbeatMesh.Text
