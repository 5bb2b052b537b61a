import Calculator.Proofs.Result
import Calculator.Token.Lexer
import Calculator.Token.SignRun

namespace Calculator

namespace Token

/-- A numeral, an operator or a parenthesis. -/
def isNotation (t : Token) : Bool := t.isNumber || t.isOperator || t.isParenthesis

theorem isNotation_of_isNumber {t : Token} (h : t.isNumber = true) : t.isNotation = true := by
  rw [isNotation, h]
  rfl

theorem isNotation_ofText {text : String}
    (h : (ofText text).isNumber = true ∨ text ∈ ["+", "-", "*", "/", "(", ")"]) :
    (ofText text).isNotation = true := by
  rcases h with hnumber | hsymbol
  · exact isNotation_of_isNumber hnumber
  · simp only [List.mem_cons, List.not_mem_nil, or_false] at hsymbol
    rcases hsymbol with rfl | rfl | rfl | rfl | rfl | rfl <;> rfl

theorem isNotation_of_symbol? {c : Char} {t : Token} (h : symbol? c = some t) :
    t.isNotation = true := by
  rw [symbol?.eq_def] at h
  split at h <;> cases h <;> rfl

theorem isNumber_of_ofRun {position : Nat} {run : List Char} {t : Token}
    (h : ofRun position run = .ok t) : t.isNumber = true := by
  simp only [ofRun] at h
  split at h
  · cases h
    rfl
  · split at h
    · cases h
    · split at h
      · cases h
      · cases h
        rfl

theorem isNotation_of_scan {position : Nat} {text : List Char} {tokens : List Token}
    (h : scan position text = .ok tokens) : ∀ t ∈ tokens, t.isNotation = true := by
  fun_induction scan position text generalizing tokens with
  | case1 position =>
      cases h
      simp
  | case2 position c rest hnumeral run =>
      rename_i ih
      obtain ⟨t, ht, hscan⟩ := exists_of_bind_eq_ok h
      obtain ⟨more, hmore, hok⟩ := exists_of_bind_eq_ok hscan
      cases hok
      exact List.forall_mem_cons.mpr
        ⟨isNotation_of_isNumber (isNumber_of_ofRun ht), ih hmore⟩
  | case3 position c rest hnumeral ih =>
      obtain ⟨more, hmore, hok⟩ := exists_of_bind_eq_ok h
      cases hok
      intro t ht
      rcases List.mem_append.mp ht with hsymbol | hrest
      · exact isNotation_of_symbol? (Option.mem_toList.mp hsymbol)
      · exact ih hmore t hrest

theorem isNotation_of_ofChars {text : List Char} {tokens : List Token}
    (h : ofChars text = .ok tokens) : ∀ t ∈ tokens, t.isNotation = true := by
  rw [ofChars] at h
  split at h
  · cases h
  · exact isNotation_of_scan h

end Token

namespace Sign

theorem toList_text (s : Sign) :
    ∃ c, s.text.toList = [c] ∧ ofText? (String.singleton c) = some s := by
  cases s with
  | plus => exact ⟨'+', rfl, rfl⟩
  | minus => exact ⟨'-', rfl, rfl⟩

theorem mapM_toList_join (run : List Sign) :
    (String.join (run.map text)).toList.mapM (fun c => ofText? (String.singleton c)) =
      some run := by
  induction run with
  | nil => rfl
  | cons s run ih =>
      obtain ⟨c, hc, hread⟩ := toList_text s
      rw [List.map_cons, String.join_cons, String.toList_append, hc, List.singleton_append,
        List.mapM_cons, hread, ih]
      rfl

theorem run?_join (s : Sign) (run : List Sign) :
    run? (String.join ((s :: run).map text)).toList = some (s :: run) := by
  obtain ⟨c, hc, -⟩ := toList_text s
  rw [← mapM_toList_join (s :: run), List.map_cons, String.join_cons, String.toList_append, hc]
  rfl

theorem ofRunText_join (s : Sign) (run : List Sign) :
    ofRunText (String.join ((s :: run).map text)) = .ok (ofRun (s :: run)) := by
  rw [ofRunText, run?_join]

end Sign

end Calculator
