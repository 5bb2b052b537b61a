import Calculator.Proofs.Expression.Values
import Calculator.Proofs.Number.Brief

/-!
Steps that tell of the same operation. The left side of a step tells the operator and the
operands, but for the signs of zeros, and only a division by zero depends on such a sign; hence
two steps with one left side have one right side, unless they divide one value by zeros of
different signs.
-/

namespace Calculator

open Number (Alike brief)
open Float.Model Float.Model.UnpackedFloat

namespace Operator

/-- What an operator does to unpacked doubles. -/
def unpacked : Operator → UnpackedFloat → UnpackedFloat → UnpackedFloat
  | additive .plus => UnpackedFloat.add .binary64
  | additive .minus => UnpackedFloat.sub .binary64
  | multiplicative .times => UnpackedFloat.mul .binary64
  | multiplicative .dividedBy => UnpackedFloat.div .binary64

theorem apply_eq (o : Operator) (a b : Float) :
    o.apply a b =
      .ofModel (Float.Model.pack (o.unpacked a.toModel.unpack b.toModel.unpack)) := by
  rcases o with (_ | _) | (_ | _)
  · rfl
  · rfl
  · rfl
  · exact Number.quotient_eq_div a b

end Operator

namespace Number

variable {a b c : Float} {u v : UnpackedFloat}

theorem Alike.trans (h : Alike a b) (h' : Alike b c) : Alike a c := by
  rcases h with rfl | ⟨ha, hb⟩
  · exact h'
  · rcases h' with rfl | ⟨-, hc⟩
    · exact .inr ⟨ha, hb⟩
    · exact .inr ⟨ha, hc⟩

/-- One unpacked double, or two zeros. -/
def AlikeUnpacked (u v : UnpackedFloat) : Prop :=
  u = v ∨ (∃ s, u = .zero s) ∧ ∃ t, v = .zero t

theorem alike_pack (h : AlikeUnpacked u v) :
    Alike (.ofModel (Float.Model.pack u)) (.ofModel (Float.Model.pack v)) := by
  rcases h with rfl | ⟨⟨s, rfl⟩, t, rfl⟩
  · exact .inl rfl
  · right
    constructor
    · cases s <;> rfl
    · cases t <;> rfl

section Zeros

variable (s t : Float.Model.UnpackedFloat.Sign)

/-- No operation depends on the sign of a zero on its left. -/
theorem alikeUnpacked_zeros_left (o : Operator) (v : UnpackedFloat) :
    AlikeUnpacked (o.unpacked (.zero s) v) (o.unpacked (.zero t) v) := by
  rcases o with sign | (_ | _)
  · cases v with
    | zero r => right; cases sign <;> cases s <;> cases t <;> cases r <;> exact ⟨⟨_, rfl⟩, _, rfl⟩
    | notANumber | infinity _ | finite _ _ _ _ => cases sign <;> exact .inl rfl
  · cases v with
    | zero _ | finite _ _ _ _ => exact .inr ⟨⟨_, rfl⟩, _, rfl⟩
    | notANumber | infinity _ => exact .inl rfl
  · cases v with
    | infinity _ | finite _ _ _ _ => exact .inr ⟨⟨_, rfl⟩, _, rfl⟩
    | notANumber | zero _ => exact .inl rfl

/-- Only a division depends on the sign of a zero on its right. -/
theorem alikeUnpacked_zeros_right (o : Operator) (u : UnpackedFloat)
    (h : o = .multiplicative .dividedBy → u = .notANumber ∨ ∃ r, u = .zero r) :
    AlikeUnpacked (o.unpacked u (.zero s)) (o.unpacked u (.zero t)) := by
  rcases o with sign | (_ | _)
  · cases u with
    | zero r => right; cases sign <;> cases s <;> cases t <;> cases r <;> exact ⟨⟨_, rfl⟩, _, rfl⟩
    | notANumber | infinity _ | finite _ _ _ _ => cases sign <;> exact .inl rfl
  · cases u with
    | zero _ | finite _ _ _ _ => exact .inr ⟨⟨_, rfl⟩, _, rfl⟩
    | notANumber | infinity _ => exact .inl rfl
  · rcases h rfl with rfl | ⟨r, rfl⟩
    · exact .inl rfl
    · exact .inl rfl

end Zeros

theorem Alike.apply_left (h : Alike a b) (o : Operator) (c : Float) :
    Alike (o.apply a c) (o.apply b c) := by
  rcases h with rfl | ⟨ha, hb⟩
  · exact .inl rfl
  · obtain ⟨s, hs⟩ := (beq_zero_iff a).mp ha
    obtain ⟨t, ht⟩ := (beq_zero_iff b).mp hb
    rw [o.apply_eq, o.apply_eq, hs, ht]
    exact alike_pack (alikeUnpacked_zeros_left s t o _)

theorem Alike.apply_right (h : Alike b c) (o : Operator) (a : Float)
    (hdivision : o = .multiplicative .dividedBy → a.isNaN = true ∨ (a == zero) = true) :
    Alike (o.apply a b) (o.apply a c) := by
  rcases h with rfl | ⟨hb, hc⟩
  · exact .inl rfl
  · obtain ⟨s, hs⟩ := (beq_zero_iff b).mp hb
    obtain ⟨t, ht⟩ := (beq_zero_iff c).mp hc
    rw [o.apply_eq, o.apply_eq, hs, ht]
    refine alike_pack (alikeUnpacked_zeros_right s t o _ fun ho => ?_)
    rcases hdivision ho with hnone | hzero
    · left
      change a.toModel.unpack.isNaN = true at hnone
      cases hu : a.toModel.unpack with
      | notANumber => rfl
      | infinity _ | zero _ | finite _ _ _ _ =>
          rw [hu] at hnone
          cases hnone
    · right
      exact (beq_zero_iff a).mp hzero

theorem Alike.apply_sign (h : Alike a b) (s : Calculator.Sign) : Alike (s.apply a) (s.apply b) := by
  cases s with
  | plus => exact h
  | minus =>
      rcases h with rfl | ⟨ha, hb⟩
      · exact .inl rfl
      · right
        rw [Calculator.Sign.apply, Calculator.Sign.apply, neg_beq_zero, neg_beq_zero]
        exact ⟨ha, hb⟩

theorem brief_infinity (s : Float.Model.UnpackedFloat.Sign) :
    brief (.ofModel (Float.Model.pack (.infinity s))) =
      if s.toBitVec.msb then "-inf" else "inf" := by
  cases s <;> decide

theorem msb_div (s t : Float.Model.UnpackedFloat.Sign) :
    (s / t).toBitVec.msb = (s.toBitVec.msb ^^ t.toBitVec.msb) := by
  cases s <;> cases t <;> rfl

/-- The sign of a zero is seen in what it divides, unless that is zero too or no number. -/
theorem not_alike_quotients (hzero : (a == zero) = false) (hnumber : a.isNaN = false)
    (hb : (b == zero) = true) (hc : (c == zero) = true) (h : isNegative b ≠ isNegative c) :
    ¬ Alike (quotient a b) (quotient a c) := by
  obtain ⟨s, hs⟩ := (beq_zero_iff b).mp hb
  obtain ⟨t, ht⟩ := (beq_zero_iff c).mp hc
  have hwords : ∀ p q r : Bool,
      (if r ^^ p then "-inf" else "inf") = (if r ^^ q then "-inf" else "inf") → p = q := by
    decide
  rw [isNegative_of_sign? (s := s) (by rw [hs]; rfl),
    isNegative_of_sign? (s := t) (by rw [ht]; rfl)] at h
  rw [quotient_eq_div, quotient_eq_div, div_eq, div_eq, hs, ht, ← brief_eq_iff_alike]
  cases hu : a.toModel.unpack with
  | notANumber =>
      refine absurd ?_ (Bool.eq_false_iff.mp hnumber)
      change a.toModel.unpack.isNaN = true
      rw [hu]
      rfl
  | zero r => exact absurd ((beq_zero_iff a).mpr ⟨r, hu⟩) (Bool.eq_false_iff.mp hzero)
  | infinity r | finite r _ _ _ =>
      simp only [UnpackedFloat.div, brief_infinity, msb_div]
      exact fun hsame => h (hwords _ _ _ hsame)

end Number

namespace Step

variable {s t : Step}

/-- One operation on operands that are alike. -/
inductive SameOperation : Step → Step → Prop where
  | unary (s : Sign) {a b : Float} (h : Alike a b) : SameOperation (.unary s a) (.unary s b)
  | binary (o : Operator) {a b a' b' : Float} (left : Alike a a') (right : Alike b b') :
      SameOperation (.binary o a b) (.binary o a' b')

/-- Two divisions of one value, which is a number and not zero, by zeros of different signs. -/
inductive Opposed : Step → Step → Prop where
  | divisions {a b c : Float} (zero : (a == Number.zero) = false) (number : a.isNaN = false)
      (left : (b == Number.zero) = true) (right : (c == Number.zero) = true)
      (signs : Number.isNegative b ≠ Number.isNegative c) :
      Opposed (.binary (.multiplicative .dividedBy) a b) (.binary (.multiplicative .dividedBy) a c)

theorem toList_operation_unary (s : Sign) (a : Float) :
    (unary s a).operation.toList = s.text.toList ++ '(' :: ((brief a).toList ++ [')']) := by
  simp [operation, toString]

theorem toList_operation_binary (o : Operator) (a b : Float) :
    (binary o a b).operation.toList =
      Text.spaced [(brief a).toList, o.text.toList, (brief b).toList] := by
  simp [operation, toString, Text.spaced_cons_cons, Text.spaced_singleton]

theorem isBlank_of_isBriefChar {c : Char} (h : Number.isBriefChar c = true) :
    Text.isBlank c = false := by
  rcases Bool.or_eq_true_iff.mp h with hfigure | hletter
  · have hkept := isKept_of_isFigure hfigure
    simp only [isKept, Bool.and_eq_true, Bool.not_eq_true'] at hkept
    exact hkept.1
  · simp only [List.contains_cons, List.contains_nil, Bool.or_false, Bool.or_eq_true,
      beq_iff_eq] at hletter
    rcases hletter with rfl | rfl | rfl | rfl <;> decide

theorem isBlank_of_mem_brief {a : Float} : ∀ c ∈ (brief a).toList, Text.isBlank c = false :=
  fun _ hc => isBlank_of_isBriefChar (Number.isBriefChar_of_mem hc)

theorem isBlank_of_mem_text (o : Operator) : ∀ c ∈ o.text.toList, Text.isBlank c = false := by
  have hall : o.text.toList.all (! Text.isBlank ·) = true := by
    rcases o with (_ | _) | (_ | _) <;> decide
  simpa using hall

theorem words_operation_unary (s : Sign) (a : Float) :
    Text.words (unary s a).operation.toList = [(unary s a).operation.toList] := by
  rw [toList_operation_unary]
  apply Text.words_solid
  · simp
  · simp only [List.forall_mem_append, List.forall_mem_cons]
    exact ⟨isBlank_of_mem_text (.additive s), rfl, isBlank_of_mem_brief, rfl, nofun⟩

theorem words_operation_binary (o : Operator) (a b : Float) :
    Text.words (binary o a b).operation.toList =
      [(brief a).toList, o.text.toList, (brief b).toList] := by
  have htext : o.text.toList ≠ [] := by
    rcases o with (_ | _) | (_ | _) <;> decide
  rw [toList_operation_binary]
  apply Text.words_spaced
  · simp only [List.forall_mem_cons]
    exact ⟨Number.brief_ne_nil a, htext, Number.brief_ne_nil b, nofun⟩
  · simp only [List.forall_mem_cons]
    exact ⟨isBlank_of_mem_brief, isBlank_of_mem_text o, isBlank_of_mem_brief, nofun⟩

theorem sameOperation_unary {s t : Sign} {a b : Float}
    (h : (unary s a).operation = (unary t b).operation) :
    SameOperation (unary s a) (unary t b) := by
  have hlength (s : Sign) : s.text.toList.length = 1 := by cases s <;> rfl
  rw [← String.toList_inj, toList_operation_unary, toList_operation_unary] at h
  obtain ⟨htext, hrest⟩ := List.append_inj h ((hlength s).trans (hlength t).symm)
  have hsign := congrArg Sign.ofText? (String.toList_inj.mp htext)
  rw [ofText?_text_sign, ofText?_text_sign, Option.some.injEq] at hsign
  subst hsign
  apply SameOperation.unary
  simpa [← Number.brief_eq_iff_alike, ← String.toList_inj] using hrest

theorem sameOperation_binary {o p : Operator} {a b c d : Float}
    (h : (binary o a b).operation = (binary p c d).operation) :
    SameOperation (binary o a b) (binary p c d) := by
  have hwords := congrArg (fun text : String => Text.words text.toList) h
  simp only [words_operation_binary, List.cons.injEq, String.toList_inj, and_true] at hwords
  obtain ⟨hleft, htext, hright⟩ := hwords
  have hoperator := congrArg Operator.ofText? htext
  rw [ofText?_text_operator, ofText?_text_operator, Option.some.injEq] at hoperator
  subst hoperator
  apply SameOperation.binary
  · exact (Number.brief_eq_iff_alike a c).mp hleft
  · exact (Number.brief_eq_iff_alike b d).mp hright

/-- The left side of a step tells the operator, and the operands but for the signs of zeros. -/
theorem operation_eq_iff (s t : Step) : s.operation = t.operation ↔ SameOperation s t := by
  constructor
  · intro h
    have hwords := congrArg (fun text : String => Text.words text.toList) h
    cases s with
    | unary s a =>
        cases t with
        | unary t b => exact sameOperation_unary h
        | binary p c d => simp [words_operation_unary, words_operation_binary] at hwords
    | binary o a b =>
        cases t with
        | unary t c => simp [words_operation_unary, words_operation_binary] at hwords
        | binary p c d => exact sameOperation_binary h
  · rintro (⟨s, h⟩ | ⟨o, left, right⟩)
    · rw [operation, operation, (Number.brief_eq_iff_alike _ _).mpr h]
    · rw [operation, operation, (Number.brief_eq_iff_alike _ _).mpr left,
        (Number.brief_eq_iff_alike _ _).mpr right]

theorem Opposed.sameOperation (h : Opposed s t) : SameOperation s t := by
  cases h with
  | divisions _ _ left right _ => exact .binary _ (.inl rfl) (.inr ⟨left, right⟩)

theorem Opposed.not_alike (h : Opposed s t) : ¬ Alike s.result t.result := by
  cases h with
  | divisions zero number left right signs =>
      exact Number.not_alike_quotients zero number left right signs

/-- Operations on operands that are alike have results that are alike, but for opposed divisions. -/
theorem SameOperation.alike_iff (h : SameOperation s t) :
    Alike s.result t.result ↔ ¬ Opposed s t := by
  refine ⟨fun halike hopposed => hopposed.not_alike halike, fun hopposed => ?_⟩
  rcases h with ⟨s, h⟩ | @⟨o, a, b, c, d, left, right⟩
  · exact h.apply_sign s
  · refine (left.apply_left o b).trans ?_
    by_cases hsafe :
        o = .multiplicative .dividedBy → c.isNaN = true ∨ (c == Number.zero) = true
    · exact right.apply_right o c hsafe
    · -- The dividend is a number and not zero, so that it is the same one on both sides.
      obtain ⟨rfl, hdividend⟩ := Classical.not_imp.mp hsafe
      obtain ⟨hnumber, hzero⟩ := not_or.mp hdividend
      rw [Bool.not_eq_true] at hnumber hzero
      obtain rfl : a = c := left.resolve_right fun hzeros => by simp [hzero] at hzeros
      rcases right with rfl | ⟨hb, hd⟩
      · exact .inl rfl
      · by_cases hsigns : Number.isNegative b = Number.isNegative d
        · rw [Number.eq_of_zeros hb hd hsigns]
          exact .inl rfl
        · exact absurd (.divisions hzero hnumber hb hd hsigns) hopposed

theorem brief_result_eq_iff (h : s.operation = t.operation) :
    brief s.result = brief t.result ↔ ¬ Opposed s t := by
  rw [Number.brief_eq_iff_alike]
  exact ((operation_eq_iff s t).mp h).alike_iff

theorem equals_notMem_brief (a : Float) : '=' ∉ (brief a).toList :=
  fun h => absurd (Number.isBriefChar_of_mem h) (by decide)

theorem equals_notMem_operation (s : Step) : '=' ∉ s.operation.toList := by
  cases s with
  | unary s a =>
      have htext : '=' ∉ s.text.toList := by cases s <;> decide
      simp [toList_operation_unary, htext, equals_notMem_brief]
  | binary o a b =>
      have htext : '=' ∉ o.text.toList := by rcases o with (_ | _) | (_ | _) <;> decide
      simp [toList_operation_binary, Text.spaced_cons_cons, Text.spaced_singleton, htext,
        equals_notMem_brief]

/-- There is one equals sign in a step, with a space on either side. -/
theorem text_eq_iff (s : Step) (left right : String) :
    s.text = left ++ " = " ++ right ↔ s.operation = left ∧ brief s.result = right := by
  constructor
  · intro h
    have hchars : (s.operation.toList ++ [' ']) ++ '=' :: (' ' :: (brief s.result).toList) =
        (left.toList ++ [' ']) ++ '=' :: (' ' :: right.toList) := by
      simpa [text, toString, ← String.toList_inj] using h
    have hfront : '=' ∉ s.operation.toList ++ [' '] := by simp [equals_notMem_operation]
    have hback : '=' ∉ ' ' :: (brief s.result).toList := by simp [equals_notMem_brief]
    rw [List.append_cons_inj_of_notMem hfront hback] at hchars
    simpa [String.toList_inj] using hchars
  · rintro ⟨rfl, rfl⟩
    rfl

end Step

/-- The left side of a step tells its right side, within an account and from one account to
another, unless two steps divide one value by zeros of different signs. These are written with the
same left side and with infinities of different signs, since an account does not show the sign of
zero. -/
theorem operation_tells_result (x y : String) :
    ∀ c d, calculate x = .ok c → calculate y = .ok d →
      (∀ left right right' : String,
        left ++ " = " ++ right ∈ c.lines → left ++ " = " ++ right' ∈ d.lines →
        right = right' ∨ ∃ s ∈ c.steps, ∃ t ∈ d.steps, s.Opposed t ∧
          s.text = left ++ " = " ++ right ∧ t.text = left ++ " = " ++ right') ∧
      ∀ s ∈ c.steps, ∀ t ∈ d.steps, s.Opposed t →
        s.operation = t.operation ∧ brief s.result ≠ brief t.result := by
  intro c d _ _
  constructor
  · intro left right right' hleft hright
    obtain ⟨s, hs, hstext⟩ := List.mem_map.mp hleft
    obtain ⟨t, ht, httext⟩ := List.mem_map.mp hright
    obtain ⟨hoperation, rfl⟩ := (s.text_eq_iff left right).mp hstext
    obtain ⟨hoperation', rfl⟩ := (t.text_eq_iff left right').mp httext
    by_cases hopposed : s.Opposed t
    · exact .inr ⟨s, hs, t, ht, hopposed, hstext, httext⟩
    · exact .inl ((Step.brief_result_eq_iff (hoperation.trans hoperation'.symm)).mpr hopposed)
  · intro s hs t ht hopposed
    have hoperation := (Step.operation_eq_iff s t).mpr hopposed.sameOperation
    exact ⟨hoperation, fun h => (Step.brief_result_eq_iff hoperation).mp h hopposed⟩

theorem operation_tells_result_unless_opposed :
    ∃ c d, calculate "1/0" = .ok c ∧ calculate "1/-0" = .ok d ∧
      "1 / 0" ++ " = " ++ "inf" ∈ c.lines ∧ "1 / 0" ++ " = " ++ "-inf" ∈ d.lines ∧
      ∃ s ∈ c.steps, ∃ t ∈ d.steps, s.Opposed t ∧
        s.text = "1 / 0" ++ " = " ++ "inf" ∧ t.text = "1 / 0" ++ " = " ++ "-inf" := by
  let c : Calculation := ⟨Number.infinity, [.binary (.multiplicative .dividedBy) 1 0]⟩
  let d : Calculation :=
    ⟨-Number.infinity, [.unary .minus 0, .binary (.multiplicative .dividedBy) 1 (-0)]⟩
  have hx : calculate "1/0" = .ok c := by decide +kernel
  have hy : calculate "1/-0" = .ok d := by decide +kernel
  have hleft : "1 / 0" ++ " = " ++ "inf" ∈ c.lines := by decide +kernel
  have hright : "1 / 0" ++ " = " ++ "-inf" ∈ d.lines := by decide +kernel
  have hresults := (operation_tells_result "1/0" "1/-0" c d hx hy).1 _ _ _ hleft hright
  exact ⟨c, d, hx, hy, hleft, hright, hresults.resolve_left (by decide)⟩

/-- One account tells of two results of one operation. -/
theorem one_over_zero_has_two_results :
    (calculate "1/0+1/-0").map Calculation.lines =
      .ok ["1 / 0 = inf", "-(0) = 0", "1 / 0 = -inf", "inf + -inf = nan"] := by
  decide +kernel

end Calculator
