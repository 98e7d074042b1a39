import PixelMachine.Text.Blank
import Mathlib.Data.List.Basic

/-!
# Words and the texts that spell them

The same words can be written with all kinds of blanks before, between and after them. A text spells
words if it is one of these ways to write them (`Text.Spells`), and it does not matter which one it is:
the words of a text are the only ones that it spells. The main result is `Text.words_eq_iff`.
-/

set_option autoImplicit false

namespace PixelMachine.Text

variable {c : Char} {cs lead word rest : List Char} {ws : List (List Char)}

/-- A word is something without blanks. -/
def IsWord (word : List Char) : Prop := word ≠ [] ∧ ∀ c ∈ word, isBlank c = false

/-- A text spells words if it has them in their order, with any blanks before the first and after the
last of them and at least one blank between two. -/
inductive Spells : List Char → List (List Char) → Prop where
  | blanks {cs : List Char} (hblank : ∀ c ∈ cs, isBlank c) : Spells cs []
  /-- What follows a word is nothing, or it starts with a blank. -/
  | word {lead word rest : List Char} {ws : List (List Char)} (hlead : ∀ c ∈ lead, isBlank c)
      (hword : IsWord word) (hrest : Spells rest ws) (hgap : ∀ c ∈ rest.head?, isBlank c) :
      Spells (lead ++ word ++ rest) (word :: ws)

/-! ## What is spelled is read -/

/-- A blank at the front is passed over. -/
theorem wordsOf_cons_blank (hc : isBlank c) (cs : List Char) : wordsOf (c :: cs) = wordsOf cs := by
  cases cs <;> simp [wordsOf, hc]

/-- Blanks at the front are passed over. -/
theorem wordsOf_append_of_blanks (hlead : ∀ c ∈ lead, isBlank c) (cs : List Char) :
    wordsOf (lead ++ cs) = wordsOf cs := by
  induction lead with
  | nil => rfl
  | cons c lead ih =>
    obtain ⟨hc, hlead⟩ := List.forall_mem_cons.1 hlead
    rw [List.cons_append, wordsOf_cons_blank hc, ih hlead]

/-- A word at the front is read up to the next blank. -/
theorem wordsOf_append_of_isWord (hword : IsWord word) (hgap : ∀ c ∈ rest.head?, isBlank c) :
    wordsOf (word ++ rest) = word :: wordsOf rest := by
  obtain ⟨hne, hletters⟩ := hword
  induction word with
  | nil => exact absurd rfl hne
  | cons c word ih =>
    obtain ⟨hc, hletters⟩ := List.forall_mem_cons.1 hletters
    cases word with
    | nil =>
      cases rest with
      | nil => simp [wordsOf, hc]
      | cons d rest => simp [wordsOf, hc, hgap d rfl]
    | cons d word =>
      have hrest := ih (List.cons_ne_nil d word) hletters
      rw [List.cons_append] at hrest
      simp [wordsOf, hc, hletters d List.mem_cons_self, hrest]

/-- The words that are spelled are read. -/
theorem wordsOf_of_spells (h : Spells cs ws) : wordsOf cs = ws := by
  induction h with
  | @blanks cs hblank =>
    have hnone := wordsOf_append_of_blanks hblank []
    rwa [List.append_nil] at hnone
  | word hlead hword hrest hgap ih =>
    rw [List.append_assoc, wordsOf_append_of_blanks hlead, wordsOf_append_of_isWord hword hgap, ih]

/-! ## What is read is spelled -/

namespace Spells

/-- A text that spells no words is blank. -/
theorem isBlank_of_nil (h : Spells cs []) : ∀ c ∈ cs, isBlank c := by
  cases h with
  | blanks hblank => exact hblank

/-- A blank in front spells nothing. -/
theorem cons_blank (hc : isBlank c) (h : Spells cs ws) : Spells (c :: cs) ws := by
  cases h with
  | blanks hblank => exact .blanks (List.forall_mem_cons.2 ⟨hc, hblank⟩)
  | @word lead word rest _ hlead hword hrest hgap =>
    exact @Spells.word (c :: lead) word rest _ (List.forall_mem_cons.2 ⟨hc, hlead⟩) hword hrest hgap

/-- A letter right in front of a word becomes a part of it. -/
theorem cons_letter (hc : isBlank c = false) (hfirst : ∀ d ∈ cs.head?, isBlank d = false)
    (h : Spells cs (word :: ws)) : Spells (c :: cs) ((c :: word) :: ws) := by
  cases h with
  | @word lead word rest _ hlead hword hrest hgap =>
    cases lead with
    | nil =>
      have hlonger : IsWord (c :: word) :=
        ⟨List.cons_ne_nil c word, List.forall_mem_cons.2 ⟨hc, hword.2⟩⟩
      exact @Spells.word [] (c :: word) rest _ hlead hlonger hrest hgap
    | cons b lead =>
      have hblank := hlead b List.mem_cons_self
      rw [hfirst b rfl] at hblank
      cases hblank

end Spells

/-- A text spells the words that are read from it. -/
theorem spells_wordsOf (cs : List Char) : Spells cs (wordsOf cs) := by
  induction cs using wordsOf.induct with
  | case1 => exact .blanks (List.forall_mem_nil _)
  | case2 c hc =>
    rw [wordsOf, if_pos hc]
    exact .blanks (List.forall_mem_singleton.2 hc)
  | case3 c hc =>
    rw [wordsOf, if_neg hc]
    have hword : IsWord [c] := ⟨List.cons_ne_nil c [], by simpa using hc⟩
    have hend : Spells [] [] := .blanks (List.forall_mem_nil _)
    exact @Spells.word [] [c] [] [] (List.forall_mem_nil _) hword hend (by simp)
  | case4 c d cs hc ih =>
    rw [wordsOf, if_pos hc]
    exact ih.cons_blank hc
  | case5 c d cs hc hd ih =>
    rw [wordsOf, if_neg hc, if_pos hd]
    have hword : IsWord [c] := ⟨List.cons_ne_nil c [], by simpa using hc⟩
    exact @Spells.word [] [c] (d :: cs) _ (List.forall_mem_nil _) hword ih (by simpa using hd)
  | case6 c d cs hc hd word rest hw ih =>
    rw [wordsOf, if_neg hc, if_neg hd, hw]
    rw [hw] at ih
    exact ih.cons_letter (by simpa using hc) (by simpa using hd)
  | case7 c d cs hc hd hw ih =>
    rw [hw] at ih
    exact absurd (ih.isBlank_of_nil d List.mem_cons_self) hd

/-- The words of a text are those that it spells. -/
theorem words_eq_iff {text : String} {ws : List String} :
    words text = ws ↔ Spells text.toList (ws.map String.toList) := by
  constructor
  · rintro rfl
    have h := spells_wordsOf text.toList
    simpa [words] using h
  · intro h
    have hwords := wordsOf_of_spells h
    simp [words, hwords]

end PixelMachine.Text
