import Mathlib.Data.List.Basic

/-!
# Words and Lines

Texts as they are taken apart by readers. A text has words, which are its longest
parts without a separator, and it has lines, which are read up to a line break each.
A carriage return in front of the line break belongs to the break.

A list of words can be written with one separator in between, and it is read back
exactly when each of them is a word. A list of lines can be written with a line break
behind each. It is read back when no line has a line break in it or a carriage return
at its end, and a text that ends in a line break is such a list.

## Main definitions

* `Words.words`, `Words.IsWord`: The words of a text.
* `Words.lines`, `Words.unlines`: The lines of a text, and lines as a text.

## Theorems

* `Words.words_intercalate`: Words are read back.
* `Words.not_mem_intercalate`: No other separator is written.
* `Words.lines_unlines`: Lines are read back.
* `Words.unlines_lines`: So is a text that ends in a line break.
-/

namespace Words

section

variable {α : Type} (separates : α → Bool)

/-- The words of a text. -/
def words [DecidableEq α] (text : List α) : List (List α) :=
  (text.splitOnP separates).filter fun word => word ≠ []

/-- A text is one word. -/
def IsWord (text : List α) : Prop := text ≠ [] ∧ ∀ c ∈ text, separates c = false

/-- No part between separators has one in it. The induction is on the text. -/
theorem separates_of_mem_splitOnP (text part : List α) (h : part ∈ text.splitOnP separates) (c : α)
    (hc : c ∈ part) : separates c = false := by
  induction text generalizing part with
  | nil =>
      rw [List.splitOnP_nil, List.mem_singleton] at h
      rw [h] at hc
      exact absurd hc List.not_mem_nil
  | cons a text ih =>
      rcases List.exists_cons_of_ne_nil (List.splitOnP_ne_nil separates text) with
        ⟨first, others, hsplit⟩
      rw [hsplit] at ih
      rw [List.splitOnP_cons_eq_if_modifyHead, hsplit] at h
      -- A separator starts a new part, anything else goes to the first part.
      by_cases ha : separates a
      · rw [if_pos ha] at h
        rcases List.mem_cons.mp h with rfl | h
        · exact absurd hc List.not_mem_nil
        · exact ih part h hc
      · rw [if_neg ha, List.modifyHead_cons] at h
        rcases List.mem_cons.mp h with rfl | h
        · rcases List.mem_cons.mp hc with rfl | hc
          · exact Bool.eq_false_iff.mpr ha
          · exact ih first List.mem_cons_self hc
        · exact ih part (List.mem_cons_of_mem first h) hc

/-- A separator that is in none of the words, and not between them, is not in the
    text. The induction is on the words. -/
theorem not_mem_intercalate (c c' : α) (hne : c' ≠ c) (hc' : separates c' = true)
    (ws : List (List α)) (h : ∀ w ∈ ws, IsWord separates w) : c' ∉ [c].intercalate ws := by
  induction ws with
  | nil => exact List.not_mem_nil
  | cons w ws ih =>
      have hrest := ih fun w' hw' => h w' (List.mem_cons_of_mem w hw')
      have hw : c' ∉ w := by
        intro hmem
        rw [(h w List.mem_cons_self).2 c' hmem] at hc'
        exact absurd hc' Bool.false_ne_true
      cases ws with
      | nil =>
          rw [List.intercalate_singleton]
          exact hw
      | cons w' ws =>
          rw [List.intercalate_cons_cons, List.mem_append, List.mem_append, List.mem_singleton,
            not_or, not_or]
          exact ⟨⟨hw, hne⟩, hrest⟩

variable [DecidableEq α]

theorem isWord_of_mem (text word : List α) (h : word ∈ words separates text) :
    IsWord separates word := by
  rcases List.mem_filter.mp h with ⟨hmem, hne⟩
  exact ⟨of_decide_eq_true hne, separates_of_mem_splitOnP separates text word hmem⟩

/-- The words in front of a separator, and those behind it. -/
theorem words_append_cons (front text : List α) (c : α) (hc : separates c = true) :
    words separates (front ++ c :: text) = words separates front ++ words separates text := by
  unfold words
  rw [List.splitOnP_append_cons front text hc, List.filter_append]

theorem words_of_isWord (word : List α) (h : IsWord separates word) :
    words separates word = [word] := by
  unfold words
  rw [List.splitOnP_eq_singleton h.2]
  exact List.filter_cons_of_pos (decide_eq_true h.1)

/-- What is written with a separator in between is read back when all of it are words,
    and then only. The induction is on the words. -/
theorem words_intercalate (c : α) (hc : separates c = true) (ws : List (List α)) :
    words separates ([c].intercalate ws) = ws ↔ ∀ w ∈ ws, IsWord separates w := by
  constructor
  · intro h w hw
    rw [← h] at hw
    exact isWord_of_mem separates _ w hw
  · intro h
    induction ws with
    | nil => simp [words]
    | cons w ws ih =>
        have hrest := ih fun w' hw' => h w' (List.mem_cons_of_mem w hw')
        cases ws with
        | nil =>
            rw [List.intercalate_singleton]
            exact words_of_isWord separates w (h w List.mem_cons_self)
        | cons w' ws =>
            rw [List.intercalate_cons_cons, List.append_assoc, List.singleton_append,
              words_append_cons separates w _ c hc, hrest,
              words_of_isWord separates w (h w List.mem_cons_self), List.singleton_append]

end

/-- A line without the carriage return at its end. -/
def stripReturn (line : List Char) : List Char :=
  if line.getLast? = some '\r' then line.dropLast else line

/-- The lines of a text. What comes behind the last line break is a line if it is not
    empty. -/
def lines (text : List Char) : List (List Char) :=
  let parts := text.splitOn '\n'
  parts.dropLast.map stripReturn ++ (parts.getLast?.toList.filter fun line => line ≠ [])

/-- Lines with a line break behind each. -/
def unlines (ls : List (List Char)) : List Char := ls.flatMap fun line => line ++ ['\n']

theorem stripReturn_of_not_mem (line : List Char) (h : '\r' ∉ line) : stripReturn line = line :=
  if_neg fun hlast => h (List.mem_of_getLast? hlast)

theorem lines_nil : lines [] = [] := rfl

/-- The first line is read up to its line break. -/
theorem lines_append_cons (line text : List Char) (h : '\n' ∉ line) :
    lines (line ++ '\n' :: text) = stripReturn line :: lines text := by
  unfold lines
  rcases List.exists_cons_of_ne_nil (List.splitOn_ne_nil '\n' text) with ⟨first, others, hsplit⟩
  rw [List.splitOn_append_cons_self_of_not_mem h, hsplit]
  rfl

/-- Lines are read back, without a carriage return at their end. The induction is on
    the lines. -/
theorem lines_unlines (ls : List (List Char)) (h : ∀ line ∈ ls, '\n' ∉ line) :
    lines (unlines ls) = ls.map stripReturn := by
  induction ls with
  | nil => rfl
  | cons line ls ih =>
      have hrest := ih fun line' hline' => h line' (List.mem_cons_of_mem line hline')
      unfold unlines at hrest ⊢
      rw [List.flatMap_cons, List.append_assoc, List.singleton_append,
        lines_append_cons line _ (h line List.mem_cons_self), hrest, List.map_cons]

/-- A text that ends in a line break is made of lines. The induction is on what comes
    before it. -/
theorem exists_unlines (front : List Char) :
    ∃ line ls, (∀ l ∈ line :: ls, '\n' ∉ l) ∧ front ++ ['\n'] = unlines (line :: ls) := by
  induction front with
  | nil => exact ⟨[], [], by simp, rfl⟩
  | cons c front ih =>
      rcases ih with ⟨line, ls, hls, hfront⟩
      -- A line break makes an empty first line, anything else extends the first line.
      by_cases hc : c = '\n'
      · refine ⟨[], line :: ls, fun l hl => ?_, ?_⟩
        · rcases List.mem_cons.mp hl with rfl | hl
          · exact List.not_mem_nil
          · exact hls l hl
        · rw [List.cons_append, hfront, hc]
          rfl
      · refine ⟨c :: line, ls, fun l hl => ?_, ?_⟩
        · rcases List.mem_cons.mp hl with rfl | hl
          · exact List.not_mem_cons_of_ne_of_not_mem (Ne.symm hc) (hls line List.mem_cons_self)
          · exact hls l (List.mem_cons_of_mem line hl)
        · rw [List.cons_append, hfront]
          rfl

/-- A text without carriage returns that ends in a line break is read back. -/
theorem unlines_lines (front : List Char) (h : '\r' ∉ front) :
    unlines (lines (front ++ ['\n'])) = front ++ ['\n'] := by
  rcases exists_unlines front with ⟨line, ls, hls, hfront⟩
  have hreturn : ∀ l ∈ line :: ls, '\r' ∉ l := by
    intro l hl hr
    have hmem : '\r' ∈ unlines (line :: ls) :=
      List.mem_flatMap.mpr ⟨l, hl, List.mem_append_left _ hr⟩
    rw [← hfront, List.mem_append, List.mem_singleton] at hmem
    exact hmem.elim h (by decide)
  -- Without carriage returns nothing is stripped off the lines.
  have hkept : (line :: ls).map stripReturn = (line :: ls).map id :=
    List.map_congr_left fun l hl => stripReturn_of_not_mem l (hreturn l hl)
  rw [hfront, lines_unlines _ hls, hkept, List.map_id]

end Words
