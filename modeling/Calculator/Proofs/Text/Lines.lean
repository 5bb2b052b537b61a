import Calculator.Proofs.Text.Words
import Mathlib.Data.List.Forall2

namespace Calculator.Text

/-- Pieces between line feeds as lines, each with the line feed that ends it. -/
def ended : List (List Char) → List (List Char)
  | [] => []
  | [last] => if last = [] then [] else [last]
  | piece :: next :: more => (piece ++ ['\n']) :: ended (next :: more)

/-- The lines before the first blank one, without their ends. -/
def openingLines (text : List Char) : List (List Char) :=
  (text.splitOn '\n').takeWhile (! isBlankText ·)

/-- A line, with the line feed that ends it or without one. -/
def IsLineOf (piece line : List Char) : Prop := line = piece ∨ line = piece ++ ['\n']

variable {text front blank : List Char} {pieces : List (List Char)}

theorem ended_cons {rest : List (List Char)} (h : rest ≠ []) (piece : List Char) :
    ended (piece :: rest) = (piece ++ ['\n']) :: ended rest := by
  match rest, h with
  | next :: more, _ => rfl

theorem lines_eq_ended (text : List Char) : lines text = ended (text.splitOn '\n') := by
  induction text with
  | nil => rfl
  | cons c rest ih =>
      have hne := List.splitOn_ne_nil '\n' rest
      rw [lines, List.splitOn_cons_eq_if_modifyHead]
      rcases Decidable.em (c = '\n') with rfl | hc
      · rw [if_pos rfl, if_pos (beq_self_eq_true '\n'), ended_cons hne, ih]
        rfl
      · rw [if_neg hc, if_neg (by simpa using hc), ih]
        -- The character belongs to the first piece of the rest, which may be the last one.
        match rest.splitOn '\n', hne with
        | [last], _ =>
            cases last with
            | nil => rfl
            | cons d more => rfl
        | piece :: next :: more, _ => rfl

theorem isBlankText_concat_feed (piece : List Char) :
    isBlankText (piece ++ ['\n']) = isBlankText piece := by
  have hfeed : isBlankText ['\n'] = true := by decide
  rw [isBlankText, List.all_append]
  exact (congrArg (isBlankText piece && ·) hfeed).trans (Bool.and_true _)

theorem forall₂_takeWhile_ended (pieces : List (List Char)) :
    List.Forall₂ IsLineOf (pieces.takeWhile (! isBlankText ·))
      ((ended pieces).takeWhile (! isBlankText ·)) := by
  induction pieces using ended.induct with
  | case1 => exact .nil
  | case2 => exact .nil
  | case3 last hlast =>
      rw [ended, if_neg hlast]
      exact List.forall₂_same.mpr fun piece _ => .inl rfl
  | case4 piece next more ih =>
      have hline := isBlankText_concat_feed piece
      rw [ended]
      generalize next :: more = rest at ih
      cases hblank : isBlankText piece with
      | true =>
          rw [List.takeWhile_cons_of_neg (by simp [hblank]),
            List.takeWhile_cons_of_neg (by simp [hline, hblank])]
          exact .nil
      | false =>
          rw [List.takeWhile_cons_of_pos (by simp [hblank]),
            List.takeWhile_cons_of_pos (by simp [hline, hblank])]
          exact .cons (.inr rfl) ih

theorem forall₂_openingLines (text : List Char) :
    List.Forall₂ IsLineOf (openingLines text)
      ((lines text).takeWhile (! isBlankText ·)) := by
  rw [lines_eq_ended]
  exact forall₂_takeWhile_ended (text.splitOn '\n')

theorem isBlankText_of_mem_openingLines {line : List Char} (h : line ∈ openingLines text) :
    isBlankText line = false := by
  have hfilled := List.all_eq_true.mp List.all_takeWhile line h
  simpa using hfilled

theorem openingLines_blank (hblank : isBlankText blank = true) (hline : '\n' ∉ blank)
    (rest : List Char) : openingLines (blank ++ '\n' :: rest) = [] := by
  rw [openingLines, List.splitOn_append_cons_self, List.splitOn_eq_singleton hline]
  exact List.takeWhile_cons_of_neg (by simp [hblank])

theorem openingLines_append (h : openingLines text = []) (front : List Char) :
    openingLines (front ++ '\n' :: text) = openingLines front := by
  rw [openingLines] at h
  rw [openingLines, openingLines, List.splitOn_append_cons_self, List.takeWhile_append, h]
  split
  next hall =>
    rw [List.append_nil]
    exact ((List.takeWhile_prefix _).eq_of_length hall).symm
  next => rfl

theorem openingLines_append_blank (hfront : front = [] ∨ ∃ text, front = text ++ ['\n'])
    (hblank : isBlankText blank = true) (hline : '\n' ∉ blank) (rest : List Char) :
    openingLines (front ++ (blank ++ '\n' :: rest)) = openingLines front := by
  have hnone := openingLines_blank hblank hline rest
  rcases hfront with rfl | ⟨text, rfl⟩
  · exact hnone
  · have hempty : openingLines [] = [] := rfl
    rw [openingLines_append hempty, List.append_assoc, List.singleton_append,
      openingLines_append hnone]

theorem return_notMem_readNewlines (text : List Char) : '\r' ∉ readNewlines text := by
  fun_induction readNewlines text with
  | case1 rest ih => simpa using ih
  | case2 rest _ ih => simpa using ih
  | case3 c rest _ hreturn ih =>
      rw [List.mem_cons, not_or]
      exact ⟨fun h => hreturn h.symm, ih⟩
  | case4 => exact List.not_mem_nil

theorem readNewlines_eq_self (h : '\r' ∉ text) : readNewlines text = text := by
  fun_induction readNewlines text with
  | case1 rest _ => exact absurd List.mem_cons_self h
  | case2 rest _ _ => exact absurd List.mem_cons_self h
  | case3 c rest _ _ ih => rw [ih fun hrest => h (List.mem_cons_of_mem c hrest)]
  | case4 => rfl

end Calculator.Text
