import Calculator.Text.Blank
import Calculator.Text.Lines

namespace Calculator

namespace Text

/-- The longest runs of characters that are no blanks. -/
def words (text : List Char) : List (List Char) :=
  (text.splitOnP isBlank).filter (! ·.isEmpty)

/-- Words with a space between each two. -/
def spaced (words : List (List Char)) : List Char := [' '].intercalate words

variable {c : Char} {text front back : List Char}

theorem words_append_blank (h : isBlank c = true) (u v : List Char) :
    words (u ++ c :: v) = words u ++ words v := by
  rw [words, List.splitOnP_append_cons u v h, List.filter_append]
  rfl

theorem words_blank_cons (h : isBlank c = true) (text : List Char) :
    words (c :: text) = words text :=
  words_append_blank h [] text

theorem words_append_blanks (h : isBlankText back = true) (text : List Char) :
    words (text ++ back) = words text := by
  induction back generalizing text with
  | nil => rw [List.append_nil]
  | cons c back ih =>
      rw [isBlankText, List.all_cons, Bool.and_eq_true] at h
      have hempty := ih h.2 []
      rw [words_append_blank h.1, ← List.nil_append back, hempty]
      exact List.append_nil _

theorem words_blanks_append (h : isBlankText front = true) (text : List Char) :
    words (front ++ text) = words text := by
  induction front with
  | nil => rfl
  | cons c front ih =>
      rw [isBlankText, List.all_cons, Bool.and_eq_true] at h
      rw [List.cons_append, words_blank_cons h.1, ih h.2]

theorem words_solid (hne : text ≠ []) (h : ∀ c ∈ text, isBlank c = false) :
    words text = [text] := by
  rw [words, List.splitOnP_eq_singleton h]
  simpa using hne

theorem words_ne_nil (h : isBlank c = false) (text : List Char) : words (c :: text) ≠ [] := by
  obtain ⟨first, more, hsplit⟩ := List.exists_cons_of_ne_nil (List.splitOnP_ne_nil isBlank text)
  rw [words, List.splitOnP_cons_eq_if_modifyHead, h, hsplit]
  simp

theorem isBlank_of_mem_splitOnP {word : List Char} (hword : word ∈ text.splitOnP isBlank) :
    ∀ c ∈ word, isBlank c = false := by
  induction text generalizing word with
  | nil =>
      rw [List.splitOnP_nil, List.mem_singleton] at hword
      rw [hword]
      exact nofun
  | cons c rest ih =>
      rw [List.splitOnP_cons_eq_if_modifyHead] at hword
      cases hc : isBlank c with
      | true =>
          rw [if_pos hc, List.mem_cons] at hword
          rcases hword with rfl | hword
          · exact nofun
          · exact ih hword
      | false =>
          -- The character is put in front of the first piece of the rest.
          obtain ⟨first, more, hsplit⟩ :=
            List.exists_cons_of_ne_nil (List.splitOnP_ne_nil isBlank rest)
          rw [hc, if_neg Bool.false_ne_true, hsplit, List.modifyHead_cons, List.mem_cons] at hword
          rw [hsplit] at ih
          rcases hword with rfl | hword
          · intro d hd
            rcases List.mem_cons.mp hd with rfl | hd
            · exact hc
            · exact ih List.mem_cons_self d hd
          · exact ih (List.mem_cons_of_mem first hword)

theorem solid_of_mem_words {word : List Char} (h : word ∈ words text) :
    word ≠ [] ∧ ∀ c ∈ word, isBlank c = false := by
  obtain ⟨hword, hfilled⟩ := List.mem_filter.mp h
  refine ⟨?_, isBlank_of_mem_splitOnP hword⟩
  rintro rfl
  cases hfilled

theorem spaced_singleton (word : List Char) : spaced [word] = word := List.intercalate_singleton

theorem spaced_cons_cons (word next : List Char) (rest : List (List Char)) :
    spaced (word :: next :: rest) = word ++ ' ' :: spaced (next :: rest) := by
  rw [spaced, List.intercalate_cons_cons, List.append_assoc]
  rfl

theorem spaced_ne_nil {word : List Char} (h : word ≠ []) (rest : List (List Char)) :
    spaced (word :: rest) ≠ [] := by
  cases rest with
  | nil => rwa [spaced_singleton]
  | cons v more => simp [spaced_cons_cons]

theorem map_spaced (f : Char → Char) (hspace : f ' ' = ' ') (parts : List (List Char)) :
    (spaced parts).map f = spaced (parts.map fun word => word.map f) := by
  induction parts with
  | nil => rfl
  | cons word rest ih =>
      cases rest with
      | nil => simp only [List.map_cons, List.map_nil, spaced_singleton]
      | cons v more =>
          rw [spaced_cons_cons, List.map_append, List.map_cons, hspace, ih]
          simp only [List.map_cons, spaced_cons_cons]

theorem words_spaced {parts : List (List Char)} (hne : ∀ word ∈ parts, word ≠ [])
    (h : ∀ word ∈ parts, ∀ c ∈ word, isBlank c = false) : words (spaced parts) = parts := by
  induction parts with
  | nil => rfl
  | cons word rest ih =>
      have hword := words_solid (hne word List.mem_cons_self) (h word List.mem_cons_self)
      have hrest := ih (fun v hv => hne v (List.mem_cons_of_mem word hv))
        fun v hv => h v (List.mem_cons_of_mem word hv)
      cases rest with
      | nil => rw [spaced_singleton, hword]
      | cons v more =>
          rw [spaced_cons_cons, words_append_blank isBlank_space, hword, hrest,
            List.singleton_append]

/-- The normal form is not reached from the words of a longer text by those of its rest, since a
word may go on; hence the characters of the word that has begun are kept in front. -/
theorem append_collapse (word : List Char) (hword : ∀ c ∈ word, isBlank c = false)
    (hhead : word = [] → text.head?.any isBlank = false)
    (hlast : text.getLast?.any isBlank = false) :
    word ++ collapse text = spaced (words (word ++ text)) := by
  induction text generalizing word with
  | nil =>
      rw [collapse, List.append_nil]
      rcases Decidable.em (word = []) with rfl | hne
      · rfl
      · rw [words_solid hne hword]
        exact (List.append_nil word).symm
  | cons c rest ih =>
      have hrest : rest.getLast?.any isBlank = false := by
        cases rest with
        | nil => rfl
        | cons d more => rwa [List.getLast?_cons_cons] at hlast
      cases hc : isBlank c with
      | false =>
          have hlonger : ∀ d ∈ word ++ [c], isBlank d = false := by
            intro d hd
            rcases List.mem_append.mp hd with hd | hd
            · exact hword d hd
            · rwa [List.mem_singleton.mp hd]
          have hword' := ih (word ++ [c]) hlonger (by simp) hrest
          simpa [collapse, hc] using hword'
      | true =>
          have hne : word ≠ [] := by
            rintro rfl
            simp [hc] at hhead
          cases rest with
          | nil => simp [hc] at hlast
          | cons d more =>
              cases hd : isBlank d with
              | true =>
                  have hsame := ih word hword (fun h => absurd h hne) hrest
                  rw [words_append_blank hd] at hsame
                  rw [words_append_blank hc, words_blank_cons hd, ← hsame]
                  simp [collapse, hc, hd]
              | false =>
                  obtain ⟨first, others, hwords⟩ :=
                    List.exists_cons_of_ne_nil (words_ne_nil hd more)
                  have hnext := ih [] (by simp) (fun _ => hd) hrest
                  rw [List.nil_append, List.nil_append, hwords] at hnext
                  rw [words_append_blank hc, words_solid hne hword, hwords]
                  change word ++ collapse (c :: d :: more) =
                    word ++ ([' '] ++ spaced (first :: others))
                  rw [← hnext]
                  simp [collapse, hc, hd]

theorem head?_dropBlanks (text : List Char) : (dropBlanks text).head?.any isBlank = false := by
  have h := List.head?_dropWhile_not isBlank text
  rw [dropBlanks]
  cases hhead : (text.dropWhile isBlank).head? with
  | none => rfl
  | some c =>
      rw [hhead] at h
      exact h

theorem exists_append_dropBlanks (text : List Char) :
    ∃ front, isBlankText front = true ∧ text = front ++ dropBlanks text :=
  ⟨text.takeWhile isBlank, List.all_takeWhile, List.takeWhile_append_dropWhile.symm⟩

theorem exists_append_trim (text : List Char) :
    ∃ back, isBlankText back = true ∧ dropBlanks text = trim text ++ back := by
  obtain ⟨front, hfront, hsplit⟩ := exists_append_dropBlanks (dropBlanks text).reverse
  refine ⟨front.reverse, ?_, ?_⟩
  · rwa [isBlankText, List.all_reverse]
  · rw [trim, ← List.reverse_append, ← hsplit, List.reverse_reverse]

theorem exists_blanks_trim_blanks (text : List Char) :
    ∃ front back, isBlankText front = true ∧ isBlankText back = true ∧
      text = front ++ (trim text ++ back) := by
  obtain ⟨front, hfront, htext⟩ := exists_append_dropBlanks text
  obtain ⟨back, hback, hrest⟩ := exists_append_trim text
  exact ⟨front, back, hfront, hback, hrest ▸ htext⟩

theorem head?_trim (text : List Char) : (trim text).head?.any isBlank = false := by
  obtain ⟨back, -, hrest⟩ := exists_append_trim text
  have hhead := head?_dropBlanks text
  cases htrim : trim text with
  | nil => rfl
  | cons c more =>
      rw [hrest, htrim] at hhead
      exact hhead

theorem getLast?_trim (text : List Char) : (trim text).getLast?.any isBlank = false := by
  rw [trim, List.getLast?_reverse]
  exact head?_dropBlanks _

theorem words_trim (text : List Char) : words (trim text) = words text := by
  obtain ⟨front, back, hfront, hback, htext⟩ := exists_blanks_trim_blanks text
  rw [htext, words_blanks_append hfront, words_append_blanks hback, ← htext]

/-- A trimmed text with its runs of blanks collapsed is its words with single spaces. -/
theorem collapse_trim (text : List Char) : collapse (trim text) = spaced (words text) := by
  rw [← words_trim]
  exact append_collapse [] (by simp) (fun _ => head?_trim text) (getLast?_trim text)

theorem length_trim_le (text : List Char) : (trim text).length ≤ text.length := by
  obtain ⟨front, back, -, -, htext⟩ := exists_blanks_trim_blanks text
  have hlength := congrArg List.length htext
  rw [List.length_append, List.length_append] at hlength
  omega

theorem length_collapse_le (text : List Char) : (collapse text).length ≤ text.length := by
  fun_induction collapse text with
  | case1 => exact Nat.le_refl 0
  | case2 c rest _ _ ih => simp only [List.length_cons]; omega
  | case3 c rest _ _ ih => simpa using ih
  | case4 c rest _ ih => simpa using ih

/-- Carriage returns and line feeds are blanks, so that no word ends elsewhere. What stands before
the text is kept, since its last word may go on in it. -/
theorem words_append_readNewlines (before text : List Char) :
    words (before ++ readNewlines text) = words (before ++ text) := by
  have hreturn : isBlank '\r' = true := by decide
  have hfeed : isBlank '\n' = true := by decide
  fun_induction readNewlines text generalizing before with
  | case1 rest ih =>
      have hrest := ih []
      rw [words_append_blank hfeed, words_append_blank hreturn, words_blank_cons hfeed]
      exact congrArg _ hrest
  | case2 rest _ ih =>
      have hrest := ih []
      rw [words_append_blank hfeed, words_append_blank hreturn]
      exact congrArg _ hrest
  | case3 c rest _ _ ih =>
      have hrest := ih (before ++ [c])
      simpa using hrest
  | case4 => rfl

end Text

theorem normalChars_eq_spaced_words (text : List Char) :
    normalChars text = (Text.spaced (Text.words text)).map standardChar := by
  rw [normalChars, Text.collapse_trim]

/-- How the lines of a text end is not seen in its normal form. -/
theorem normalChars_readNewlines (text : List Char) :
    normalChars (Text.readNewlines text) = normalChars text := by
  rw [normalChars_eq_spaced_words, normalChars_eq_spaced_words]
  exact congrArg (fun words => (Text.spaced words).map standardChar)
    (Text.words_append_readNewlines [] text)

end Calculator
