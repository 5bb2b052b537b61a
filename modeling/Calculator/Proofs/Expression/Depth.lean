import Calculator.Proofs.Expression.Rendering
import Calculator.Proofs.Expression.Reports

namespace Calculator

namespace Expr

variable {levels position : Nat} {span inner : List Token} {e : Expr}

/-- How many operators are applied one within another, at most. -/
def height : Expr → Nat
  | number _ => 0
  | unary _ e => e.height + 1
  | binary _ l r => max l.height r.height + 1

theorem calculateWithin_eq (levels : Nat) (e : Expr) :
    e.calculateWithin levels = if e.height < levels then some e.calculate else none := by
  induction e generalizing levels with
  | number value =>
      cases levels with
      | zero => rfl
      | succ levels => simp [calculateWithin, calculate, height]
  | unary s e ih =>
      cases levels with
      | zero => simp [calculateWithin]
      | succ levels =>
          rw [calculateWithin, ih, height]
          by_cases hfits : e.height < levels
          · simp [hfits, calculate]
          · simp [hfits]
  | binary o l r ihl ihr =>
      cases levels with
      | zero => simp [calculateWithin]
      | succ levels =>
          rw [calculateWithin, ihl, ihr, height]
          by_cases hleft : l.height < levels
          · by_cases hright : r.height < levels
            · simp [hleft, hright, calculate]
            · simp [hleft, hright]
          · simp [hleft]

theorem stripped_of_some (h : Token.interior? span = some inner) :
    stripped position span = stripped (position + 1) inner := by
  rw [stripped]
  split
  · next other hother =>
    rw [h] at hother
    cases hother
    rfl
  · next hnone =>
    rw [h] at hnone
    cases hnone

theorem stripped_of_none (h : Token.interior? span = none) :
    stripped position span = (position, span) := by
  rw [stripped]
  split
  · next other hother =>
    rw [h] at hother
    cases hother
  · rfl

/-- The tree of a span, whose parentheses are taken off at once. -/
theorem ofSpan_eq (position : Nat) (span : List Token) :
    ofSpan position span =
      let (position, span) := stripped position span
      if span.length ≤ 3 then simple position span
      else
        match signedGroup? span with
        | some (s, group) => do
          let e ← ofSpan (position + 1) group
          return .unary s e
        | none =>
          match Split.main? span with
          | none => .error (.noOperator span position)
          | some split => do
            let l ← ofSpan position split.left
            let r ← ofSpan (position + split.left.length + 1) split.right
            return .binary split.operator l r := by
  fun_induction ofSpan position span with
  | case1 position span inner hinner ih => rw [ih, stripped_of_some hinner]
  | case2 position span hinner hshort =>
      rw [stripped_of_none hinner]
      simp only [hshort, if_true]
  | case3 position span hinner hlong s group hsigned ih =>
      rw [stripped_of_none hinner]
      simp only [hlong, if_false, hsigned]
  | case4 position span hinner hlong hsigned hmain =>
      rw [stripped_of_none hinner]
      simp only [hlong, if_false, hsigned, hmain]
  | case5 position span hinner hlong hsigned split hmain ihl ihr =>
      rw [stripped_of_none hinner]
      simp only [hlong, if_false, hsigned, hmain]

theorem height_simple (h : simple position span = .ok e) : e.height ≤ 1 := by
  unfold simple at h
  split at h
  case h_5 => cases h
  all_goals
    cases h
    simp [height]

/-- That a tree is built if it is not higher than there is room, and not built if it is higher. At
the border it depends on how the span branches. -/
def IsBuiltWithin (levels : Nat) (built : Except (Option BuildFault) Expr) (e : Expr) : Prop :=
  (built = .ok e ∧ e.height ≤ levels) ∨ (built = .error none ∧ levels ≤ e.height)

namespace IsBuiltWithin

variable {built left right : Except (Option BuildFault) Expr} {l r : Expr}

theorem unary (h : IsBuiltWithin levels built e) (s : Sign) :
    IsBuiltWithin (levels + 1) (built >>= fun e => pure (.unary s e)) (.unary s e) := by
  rcases h with ⟨rfl, hheight⟩ | ⟨rfl, hheight⟩
  · exact .inl ⟨rfl, Nat.succ_le_succ hheight⟩
  · exact .inr ⟨rfl, Nat.succ_le_succ hheight⟩

theorem binary (hl : IsBuiltWithin levels left l) (hr : IsBuiltWithin levels right r)
    (o : Operator) :
    IsBuiltWithin (levels + 1) (left >>= fun l => right >>= fun r => pure (.binary o l r))
      (.binary o l r) := by
  rcases hl with ⟨rfl, hl⟩ | ⟨rfl, hl⟩
  · rcases hr with ⟨rfl, hr⟩ | ⟨rfl, hr⟩
    · exact .inl ⟨rfl, Nat.succ_le_succ (Nat.max_le.mpr ⟨hl, hr⟩)⟩
    · exact .inr ⟨rfl, Nat.succ_le_succ (Nat.le_trans hr (Nat.le_max_right _ _))⟩
  · exact .inr ⟨rfl, Nat.succ_le_succ (Nat.le_trans hl (Nat.le_max_left _ _))⟩

end IsBuiltWithin

theorem isBuiltWithin_of_ofSpan (h : ofSpan position span = .ok e) (levels : Nat) :
    IsBuiltWithin levels (ofSpanWithin levels position span) e := by
  induction levels generalizing position span e with
  | zero => exact .inr ⟨rfl, Nat.zero_le e.height⟩
  | succ levels ih =>
      rw [ofSpan_eq] at h
      rw [ofSpanWithin]
      generalize stripped position span = begun at h ⊢
      obtain ⟨position, span⟩ := begun
      dsimp only at h ⊢
      split at h
      · next hshort =>
        have hheight := height_simple h
        rw [if_pos hshort, h]
        exact .inl ⟨rfl, by omega⟩
      · next hlong =>
        rw [if_neg hlong]
        cases hsigned : signedGroup? span with
        | some signed =>
            obtain ⟨s, group⟩ := signed
            simp only [hsigned] at h ⊢
            obtain ⟨a, ha, hunary⟩ := exists_of_bind_eq_ok h
            cases hunary
            exact (ih ha).unary s
        | none =>
            simp only [hsigned] at h ⊢
            cases hmain : Split.main? span with
            | none =>
                simp only [hmain] at h
                cases h
            | some split =>
                simp only [hmain] at h ⊢
                obtain ⟨l, hl, hrest⟩ := exists_of_bind_eq_ok h
                obtain ⟨r, hr, hbinary⟩ := exists_of_bind_eq_ok hrest
                cases hbinary
                exact (ih hl).binary (ih hr) split.operator

end Expr

section Tokens

variable {text : String} {merged : List Token} {levels : Nat} (h : tokens text = .ok merged)

include h

theorem parseWithin_of_tokens :
    parseWithin levels text = (validate merged).mapError (.rejected ∘ .structural) >>= fun kept =>
      (Expr.ofSpanWithin levels 0 kept).mapError Halt.ofBuild := by
  rw [parseWithin, h]
  rfl

theorem parseWithin_of_validate (haccepted : validate merged = .ok merged) :
    parseWithin levels text = (Expr.ofSpanWithin levels 0 merged).mapError Halt.ofBuild := by
  rw [parseWithin_of_tokens h, haccepted]
  rfl

end Tokens

variable {text : String} {e : Expr} {rejection : Rejection}

theorem parseWithin_of_error (h : parse text = .error rejection) (levels : Nat) :
    parseWithin levels text = .error (.rejected rejection) := by
  rcases report_cases text with
    ⟨fault, htokens, hparse⟩ | ⟨merged, fault, more, htokens, hfaults, hparse⟩ |
    ⟨merged, e, -, -, hparse⟩
  · obtain rfl := Except.error.inj (h.symm.trans hparse)
    rw [parseWithin, htokens]
    rfl
  · obtain rfl := Except.error.inj (h.symm.trans hparse)
    have hrefused : validate merged = .error fault :=
      validate_eq_error_iff.mpr (by rw [hfaults, List.head?_cons])
    rw [parseWithin_of_tokens htokens, hrefused]
    rfl
  · cases h.symm.trans hparse

theorem parseWithin_of_ok (h : parse text = .ok e) (levels : Nat) :
    (parseWithin levels text = .ok e ∧ e.height ≤ levels) ∨
      (parseWithin levels text = .error .tooDeep ∧ levels ≤ e.height) := by
  rcases report_cases text with
    ⟨_, -, hparse⟩ | ⟨_, _, _, -, -, hparse⟩ | ⟨merged, a, htokens, hnone, hparse⟩
  · cases h.symm.trans hparse
  · cases h.symm.trans hparse
  · have haccepted := validate_eq_ok_iff_structuralFaults.mpr hnone
    rw [parse_of_validate htokens haccepted] at h
    rw [parseWithin_of_validate htokens haccepted]
    rcases Expr.isBuiltWithin_of_ofSpan (mapError_eq_ok_iff.mp h) levels with
      ⟨hbuilt, hheight⟩ | ⟨hdeep, hheight⟩
    · rw [hbuilt]
      exact .inl ⟨rfl, hheight⟩
    · rw [hdeep]
      exact .inr ⟨rfl, hheight⟩

theorem calculateWithin_of_error (h : parse text = .error rejection) (room : Room) :
    calculateWithin room text = .error (.rejected rejection) := by
  rw [calculateWithin, parseWithin_of_error h]
  rfl

theorem calculateWithin_of_ok (h : parse text = .ok e) (room : Room) :
    (calculateWithin room text = .ok e.calculate ∧ e.height ≤ room.building ∧
        e.height < room.evaluating) ∨
      (calculateWithin room text = .error .tooDeep ∧
        (room.building ≤ e.height ∨ room.evaluating ≤ e.height)) := by
  rw [calculateWithin]
  rcases parseWithin_of_ok h room.building with ⟨hparse, hbuilding⟩ | ⟨hparse, hbuilding⟩
  · simp only [hparse, bind, Except.bind, Expr.calculateWithin_eq]
    by_cases hfits : e.height < room.evaluating
    · rw [if_pos hfits]
      exact .inl ⟨rfl, hbuilding, hfits⟩
    · rw [if_neg hfits]
      exact .inr ⟨rfl, .inr (Nat.le_of_not_lt hfits)⟩
  · rw [hparse]
    exact .inr ⟨rfl, .inl hbuilding⟩

/-- What the outcome in a room tells of the text. -/
theorem calculateWithin_spec (room : Room) (text : String) :
    match calculateWithin room text with
    | .ok c => ∃ e, parse text = .ok e ∧ e.calculate = c
    | .error (.rejected rejection) => parse text = .error rejection
    | .error .tooDeep =>
      ∃ e, parse text = .ok e ∧ (room.building ≤ e.height ∨ room.evaluating ≤ e.height) := by
  cases hparse : parse text with
  | error rejection => rw [calculateWithin_of_error hparse]
  | ok e =>
      rcases calculateWithin_of_ok hparse room with ⟨hcalculated, -⟩ | ⟨hdeep, hheight⟩
      · rw [hcalculated]
        exact ⟨e, rfl, rfl⟩
      · rw [hdeep]
        exact ⟨e, rfl, hheight⟩

section Outcomes

variable {room : Room}

theorem exists_parse_of_calculateWithin {c : Calculation} (h : calculateWithin room text = .ok c) :
    ∃ e, parse text = .ok e ∧ e.calculate = c := by
  simpa only [h] using calculateWithin_spec room text

theorem parse_of_rejected (h : calculateWithin room text = .error (.rejected rejection)) :
    parse text = .error rejection := by
  simpa only [h] using calculateWithin_spec room text

theorem exists_parse_of_tooDeep (h : calculateWithin room text = .error .tooDeep) :
    ∃ e, parse text = .ok e ∧ (room.building ≤ e.height ∨ room.evaluating ≤ e.height) := by
  simpa only [h] using calculateWithin_spec room text

end Outcomes

theorem calculateWithin_congr {other : String} (h : tokens text = tokens other) (room : Room) :
    calculateWithin room text = calculateWithin room other := by
  rw [calculateWithin, calculateWithin, parseWithin, parseWithin, h]

namespace Formula

def one : Numeral := ⟨Digit.ofChar '1', [], []⟩

/-- So many additions, each of them on the right of another one. -/
def nestedSum : Nat → Formula
  | 0 => number one
  | n + 1 => binary (.additive .plus) (number one) (nestedSum n)

theorem height_nestedSum (n : Nat) : (nestedSum n).toExpr.height = n := by
  induction n with
  | zero => rfl
  | succ n ih => simp [nestedSum, toExpr, Expr.height, ih]

end Formula

/-- So many sums in parentheses one within another, `(1+(1+…(1+1)…))`. -/
def nestedSum (n : Nat) : String :=
  String.ofList ((List.replicate n ['(', '1', '+']).flatten ++ '1' :: List.replicate n ')')

theorem length_nestedSum (n : Nat) : (nestedSum n).length = 4 * n + 1 := by
  rw [nestedSum, String.length_ofList]
  simp
  omega

theorem flatMap_fullTokens_nestedSum (n : Nat) :
    ((Formula.nestedSum n).fullTokens.flatMap fun t => t.text.toList) =
      (nestedSum n).toList := by
  rw [nestedSum, String.toList_ofList]
  induction n with
  | zero => rfl
  | succ n ih =>
      have hnext : (Formula.nestedSum (n + 1)).fullTokens =
          [.opening, .number Formula.one, .sign .plus] ++
            ((Formula.nestedSum n).fullTokens ++ [.closing]) := rfl
      have hfirst : [Token.opening, .number Formula.one, .sign .plus].flatMap
          (fun t => t.text.toList) = ['(', '1', '+'] := rfl
      have hlast : [Token.closing].flatMap (fun t => t.text.toList) = [')'] := rfl
      rw [hnext, List.flatMap_append, List.flatMap_append, ih, hfirst, hlast,
        List.replicate_succ, List.replicate_succ']
      simp

theorem parse_nestedSum (n : Nat) :
    parse (nestedSum n) = .ok (Formula.nestedSum n).toExpr := by
  have hspelled := Token.spells_flatMap (Formula.nestedSum n).fullTokens
  rw [flatMap_fullTokens_nestedSum] at hspelled
  exact Formula.parse_of_spells_tokens (.inl hspelled)

/-- No room is enough for every text. -/
theorem calculateWithin_nestedSum {room : Room} {n : Nat} (h : room.building < n) :
    calculateWithin room (nestedSum n) = .error .tooDeep := by
  rcases calculateWithin_of_ok (parse_nestedSum n) room with ⟨-, hheight, -⟩ | ⟨hdeep, -⟩
  · rw [Formula.height_nestedSum] at hheight
    omega
  · exact hdeep

end Calculator
