import Calculator.Proofs.Result
import Calculator.Token.Lexer

namespace Calculator

/-- The fault of a text that stands behind so many characters. -/
def LexicalFault.behind (count : Nat) : LexicalFault → LexicalFault
  | foreignCharacter c position => foreignCharacter c (position + count)
  | lonePoint position => lonePoint (position + count)
  | secondPoint numeral position => secondPoint numeral (position + count)

namespace Token

/-- That no numeral goes across the place where two texts meet. -/
def CutsNoNumeral (u v : List Char) : Prop :=
  u.getLast?.any isNumeralChar = false ∨ v.head?.any isNumeralChar = false

variable {u v : List Char} {c : Char}

theorem CutsNoNumeral.tail (h : CutsNoNumeral (c :: u) v) : CutsNoNumeral u v := by
  cases u with
  | nil => exact .inl rfl
  | cons d more => exact h.imp_left fun h => by rwa [List.getLast?_cons_cons] at h

/-- A numeral that begins in the first text ends in it. -/
theorem CutsNoNumeral.takeWhile_dropWhile (hc : isNumeralChar c = true)
    (h : CutsNoNumeral (c :: u) v) :
    (u ++ v).takeWhile isNumeralChar = u.takeWhile isNumeralChar ∧
      (u ++ v).dropWhile isNumeralChar = u.dropWhile isNumeralChar ++ v ∧
      CutsNoNumeral (u.dropWhile isNumeralChar) v := by
  induction u generalizing c with
  | nil =>
      rcases h with h | h
      · simp [hc] at h
      · refine ⟨?_, ?_, .inl rfl⟩
        · cases v with
          | nil => rfl
          | cons d more => exact List.takeWhile_cons_of_neg (Bool.not_eq_true _ ▸ h)
        · cases v with
          | nil => rfl
          | cons d more => exact List.dropWhile_cons_of_neg (Bool.not_eq_true _ ▸ h)
  | cons d u ih =>
      cases hd : isNumeralChar d with
      | true =>
          obtain ⟨htake, hdrop, hcut⟩ := ih hd h.tail
          simp only [List.cons_append, List.takeWhile_cons_of_pos hd, List.dropWhile_cons_of_pos hd]
          exact ⟨congrArg (d :: ·) htake, hdrop, hcut⟩
      | false =>
          simp only [List.cons_append, List.takeWhile_cons, List.dropWhile_cons, hd]
          exact ⟨rfl, rfl, h.tail⟩

theorem scan_append (position : Nat) (h : CutsNoNumeral u v) :
    scan position (u ++ v) = do
      let left ← scan position u
      let right ← scan (position + u.length) v
      return left ++ right := by
  fun_induction scan position u with
  | case1 position => exact (bind_pure (scan position v)).symm
  | case2 position c rest hc run ih =>
      obtain ⟨htake, hdrop, hcut⟩ := h.takeWhile_dropWhile hc
      have hrest : run ++ rest.dropWhile isNumeralChar = rest := List.takeWhile_append_dropWhile
      have hlength : position + 1 + run.length + (rest.dropWhile isNumeralChar).length =
          position + (c :: rest).length := by
        rw [List.length_cons, ← congrArg List.length hrest, List.length_append]
        omega
      rw [List.cons_append, scan, if_pos hc, htake, hdrop]
      simp only [ih hcut, hlength, bind_assoc, pure_bind, List.cons_append, run]
  | case3 position c rest hc ih =>
      have hlength : position + 1 + rest.length = position + (c :: rest).length := by
        rw [List.length_cons]
        omega
      rw [List.cons_append, scan, if_neg hc]
      simp only [ih h.tail, hlength, bind_assoc, pure_bind, List.append_assoc]

theorem ofRun_add (position count : Nat) (run : List Char) :
    ofRun (position + count) run = (ofRun position run).mapError (.behind count) := by
  simp only [ofRun]
  split
  · rfl
  · split
    · rw [mapError_error, LexicalFault.behind]
      congr 2
      omega
    · split <;> rfl

theorem scan_add (position count : Nat) (text : List Char) :
    scan (position + count) text = (scan position text).mapError (.behind count) := by
  fun_induction scan position text with
  | case1 position => rw [scan, mapError_ok]
  | case2 position c rest hc run ih =>
      have hnext : position + count + 1 + run.length = position + 1 + run.length + count := by omega
      rw [scan, if_pos hc]
      simp only [ofRun_add, run] at hnext ⊢
      rw [hnext, ih]
      cases ofRun position (c :: rest.takeWhile isNumeralChar) with
      | error fault => rfl
      | ok token => cases scan (position + 1 + run.length) (rest.dropWhile isNumeralChar) <;> rfl
  | case3 position c rest hc ih =>
      have hnext : position + count + 1 = position + 1 + count := by omega
      rw [scan, if_neg hc, hnext, ih]
      cases scan (position + 1) rest <;> rfl

theorem toOption_scan (position : Nat) (text : List Char) :
    (scan position text).toOption = (scan 0 text).toOption := by
  have h := scan_add 0 position text
  rw [Nat.zero_add] at h
  rw [h]
  cases scan 0 text <;> rfl

theorem foreignCharacter?_eq_none_iff (position : Nat) (text : List Char) :
    foreignCharacter? position text = none ↔ text.all isLegal = true := by
  induction text generalizing position with
  | nil => simp [foreignCharacter?]
  | cons c rest ih =>
      rw [foreignCharacter?, List.all_cons]
      cases isLegal c with
      | false => simp
      | true => simpa using ih (position + 1)

/-- The tokens of a text, if nothing in it is at fault. -/
def ofChars? (text : List Char) : Option (List Token) := (ofChars text).toOption

theorem ofChars?_eq_some_iff {text : List Char} {tokens : List Token} :
    ofChars? text = some tokens ↔ ofChars text = .ok tokens := by
  rw [ofChars?]
  cases ofChars text <;> simp [Except.toOption]

theorem ofChars?_nil : ofChars? [] = some [] := by
  rw [ofChars?_eq_some_iff, ofChars, foreignCharacter?, scan]

theorem ofChars?_eq_scan (text : List Char) :
    ofChars? text = if text.all isLegal then (scan 0 text).toOption else none := by
  rw [ofChars?, ofChars]
  cases hforeign : foreignCharacter? 0 text with
  | none => rw [if_pos ((foreignCharacter?_eq_none_iff 0 text).mp hforeign)]
  | some fault =>
      rw [if_neg]
      · rfl
      · rw [← foreignCharacter?_eq_none_iff 0 text, hforeign]
        nofun

/-- Where no numeral is cut, two texts are read one after the other. -/
theorem ofChars?_append (h : CutsNoNumeral u v) :
    ofChars? (u ++ v) = (ofChars? u).bind fun left => (ofChars? v).map (left ++ ·) := by
  rw [ofChars?_eq_scan, ofChars?_eq_scan, ofChars?_eq_scan, List.all_append, scan_append 0 h,
    ← toOption_scan (0 + u.length) v]
  cases u.all isLegal <;> cases v.all isLegal <;> cases scan 0 u <;>
    cases scan (0 + u.length) v <;> rfl

theorem ofChars?_symbol_cons {t : Token} (hc : isNumeralChar c = false) (ht : symbol? c = some t)
    (text : List Char) : ofChars? (c :: text) = (ofChars? text).map (t :: ·) := by
  have hlegal : isLegal c = true := by simp [isLegal, ht]
  have hone : ofChars? [c] = some [t] := by
    rw [ofChars?_eq_scan, scan, scan, hc, ht]
    simp [hlegal, Except.toOption, pure, Except.pure, bind, Except.bind]
  have hcut : CutsNoNumeral [c] text := .inl hc
  exact (ofChars?_append hcut).trans (by rw [hone]; rfl)

theorem ofChars?_space_cons (text : List Char) : ofChars? (' ' :: text) = ofChars? text := by
  have hone : ofChars? [' '] = some [] := by
    rw [ofChars?_eq_scan, scan, scan]
    rfl
  have hcut : CutsNoNumeral [' '] text := .inl rfl
  refine (ofChars?_append hcut).trans ?_
  rw [hone]
  exact Option.map_id'

end Token

end Calculator
