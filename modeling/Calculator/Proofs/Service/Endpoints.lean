import Calculator.Proofs.Expression.Depth
import Calculator.Proofs.Number.Display
import Calculator.Service

namespace Calculator.Service

/-- The request that asks a route about an expression. -/
def Route.request (route : Route) (expression : String) : Request :=
  ⟨route.method, route.path, .record (.text expression)⟩

variable {settings : Settings} {room : Room} {expression : String} {answer : String → Response}

theorem ofPath?_path (route : Route) : Route.ofPath? route.path = some route := by
  cases route <;> decide

theorem toUpper_method (route : Route) : route.method.toUpper = route.method := by
  cases route <;> cbv

theorem respond_evaluate (hfilled : expression ≠ "") :
    respond settings (Route.evaluate.request expression) room =
      withinLength settings expression (evaluateExpression room) := by
  have hpayload : (Payload.record (.text expression)).evaluable = .ok expression := if_neg hfilled
  simp only [respond, Route.request, ofPath?_path, toUpper_method, ne_eq, not_true_eq_false,
    if_false, answerEvaluate, hpayload]

theorem respond_validate :
    respond settings (Route.validate.request expression) room =
      withinLength settings expression validateExpression := by
  simp only [respond, Route.request, ofPath?_path, toUpper_method, ne_eq, not_true_eq_false,
    if_false, answerValidate, Payload.expression]

theorem status_withinLength (hlong : settings.greatestLength < expression.length) :
    (withinLength settings expression answer).status = 413 := by
  rw [withinLength, if_pos hlong]

theorem withinLength_of_le (hfits : expression.length ≤ settings.greatestLength) :
    withinLength settings expression answer = answer expression :=
  if_neg (by omega)

theorem evaluateExpression_of_error {rejection : Rejection}
    (h : parse expression = .error rejection) :
    evaluateExpression room expression = ⟨422, .rejected rejection.issue⟩ := by
  rw [evaluateExpression, calculateWithin_of_error h]

theorem evaluateExpression_of_ok {e : Expr}
    (h : calculateWithin room expression = .ok e.calculate) :
    evaluateExpression room expression =
      ⟨200, .evaluated expression (if e.evaluate.isFinite then some e.evaluate else none)
        (Number.display e.evaluate) e.evaluate.isFinite e.calculate.lines⟩ := by
  rw [evaluateExpression, h, ← Expr.calculate_value]

theorem evaluateExpression_of_tooDeep (h : calculateWithin room expression = .error .tooDeep) :
    evaluateExpression room expression = ⟨422, .detail .tooDeep⟩ := by
  rw [evaluateExpression, h]

theorem validateExpression_of_lexical {fault : LexicalFault}
    (h : tokens expression = .error fault) :
    validateExpression expression = ⟨200, .validated expression false [] [fault.issue]⟩ := by
  rw [validateExpression, h]

theorem validateExpression_of_tokens {merged : List Token} (h : tokens expression = .ok merged) :
    validateExpression expression =
      ⟨200, .validated expression (structuralFaults merged).isEmpty merged
        ((structuralFaults merged).map StructuralFault.issue)⟩ := by
  rw [validateExpression, h]
  simp only [List.isEmpty_map]

theorem exists_validated_of_ok {e : Expr} (h : parse expression = .ok e) :
    ∃ merged,
      validateExpression expression = ⟨200, .validated expression true merged []⟩ := by
  rcases report_cases expression with
    ⟨_, -, hparse⟩ | ⟨_, _, _, -, -, hparse⟩ | ⟨merged, _, htokens, hnone, -⟩
  · cases h.symm.trans hparse
  · cases h.symm.trans hparse
  · rw [validateExpression_of_tokens htokens, hnone]
    exact ⟨merged, rfl⟩

theorem value_and_display (a : Float) :
    ((if a.isFinite then some a else none) = none ↔ a.isFinite = false) ∧
      ((if a.isFinite then some a else none) = none ↔
        Number.display a ∈ ["Infinity", "-Infinity", "NaN"]) ∧
      ∀ v, (if a.isFinite then some a else none) = some v → Number.display a = Number.plain v := by
  rw [Number.display_mem_words_iff]
  cases hfinite : a.isFinite with
  | false => simp
  | true =>
      have hdisplay := Number.display_eq_plain hfinite
      simpa using hdisplay

/-- Of an expression that is neither empty nor too long the two routes say the same: both refuse
it, and what one route refuses it for is the first issue that the other one lists, or both accept
it. One that is accepted is evaluated if there is room for its tree, and refused for its depth if
there is not. An expression that is too long is refused by both, whatever it is. -/
theorem routes_agree (settings : Settings) (room : Room) (expression : String)
    (hfilled : expression ≠ "") :
    (settings.greatestLength < expression.length →
        (respond settings (Route.evaluate.request expression) room).status = 413 ∧
          (respond settings (Route.validate.request expression) room).status = 413) ∧
      (expression.length ≤ settings.greatestLength → ∃ valid listed issues,
        respond settings (Route.validate.request expression) room =
            ⟨200, .validated expression valid listed issues⟩ ∧
          (valid = true ↔ issues = []) ∧
          (valid = false → ∃ issue,
            respond settings (Route.evaluate.request expression) room = ⟨422, .rejected issue⟩ ∧
              issues.head? = some issue) ∧
          (∀ fault, parse expression = .error (.lexical fault) →
            listed = [] ∧ issues = [fault.issue]) ∧
          (valid = true → ∃ e, parse expression = .ok e ∧
            ((e.height ≤ room.building ∧ e.height < room.evaluating ∧
                ∃ value display isFinite steps,
                  respond settings (Route.evaluate.request expression) room =
                      ⟨200, .evaluated expression value display isFinite steps⟩ ∧
                    (value = none ↔ isFinite = false) ∧
                    (value = none ↔ display ∈ ["Infinity", "-Infinity", "NaN"]) ∧
                    ∀ v, value = some v → display = Number.plain v) ∨
              (room.building ≤ e.height ∨ room.evaluating ≤ e.height) ∧
                respond settings (Route.evaluate.request expression) room =
                  ⟨422, .detail { message := "Expression is nested too deeply."
                                  code := some "NESTING_TOO_DEEP" }⟩))) := by
  rw [respond_evaluate hfilled, respond_validate]
  refine ⟨fun hlong => ⟨status_withinLength hlong, status_withinLength hlong⟩, fun hfits => ?_⟩
  rw [withinLength_of_le hfits, withinLength_of_le hfits]
  rcases report_cases expression with
    ⟨fault, htokens, hparse⟩ | ⟨merged, fault, more, htokens, hfaults, hparse⟩ |
    ⟨_, e, -, -, hparse⟩
  · rw [validateExpression_of_lexical htokens, evaluateExpression_of_error hparse]
    refine ⟨false, [], [fault.issue], rfl, by simp, fun _ => ⟨_, rfl, rfl⟩, ?_, nofun⟩
    intro other hother
    rw [hparse] at hother
    cases hother
    exact ⟨rfl, rfl⟩
  · rw [validateExpression_of_tokens htokens, evaluateExpression_of_error hparse, hfaults]
    refine ⟨false, merged, _, rfl, by simp, fun _ => ⟨_, rfl, rfl⟩, ?_, nofun⟩
    intro other hother
    cases hparse.symm.trans hother
  · obtain ⟨listed, hvalidated⟩ := exists_validated_of_ok hparse
    rw [hvalidated]
    refine ⟨true, listed, [], rfl, by simp, nofun, ?_, fun _ => ⟨e, hparse, ?_⟩⟩
    · intro other hother
      cases hparse.symm.trans hother
    · rcases calculateWithin_of_ok hparse room with
        ⟨hbuilt, hbuilding, hevaluating⟩ | ⟨hdeep, hheight⟩
      · rw [evaluateExpression_of_ok hbuilt]
        exact .inl ⟨hbuilding, hevaluating, _, _, _, _, rfl, value_and_display e.evaluate⟩
      · rw [evaluateExpression_of_tooDeep hdeep]
        exact .inr ⟨hheight, rfl⟩

theorem routes_agree_on_infinity :
    "1/0" ≠ "" ∧
      (respond { greatestLength := 3 } (Route.evaluate.request "1/0") .usual).status = 200 ∧
      ∃ listed, respond { greatestLength := 3 } (Route.validate.request "1/0") .usual =
        ⟨200, .validated "1/0" true listed []⟩ := by
  have hfilled : "1/0" ≠ "" := by decide
  have hstatus :
      (respond { greatestLength := 3 } (Route.evaluate.request "1/0") .usual).status = 200 := by
    decide +kernel
  obtain ⟨valid, listed, issues, hvalidated, hissues, hrefused, -⟩ :=
    (routes_agree { greatestLength := 3 } .usual "1/0" hfilled).2 (by decide)
  refine ⟨hfilled, hstatus, listed, ?_⟩
  cases valid with
  | false =>
      obtain ⟨issue, hanswer, -⟩ := hrefused rfl
      rw [hanswer] at hstatus
      cases hstatus
  | true =>
      obtain rfl := hissues.mp rfl
      exact hvalidated

/-- One route finds nothing at fault in a nested sum, and the other one has no room for it. -/
theorem routes_differ_on_nested_sum :
    nestedSum 1999 ≠ "" ∧ (nestedSum 1999).length ≤ ({} : Settings).greatestLength ∧
      (∃ listed, respond {} (Route.validate.request (nestedSum 1999)) .usual =
        ⟨200, .validated (nestedSum 1999) true listed []⟩) ∧
      (respond {} (Route.evaluate.request (nestedSum 1999)) .usual).status = 422 := by
  have hlength := length_nestedSum 1999
  have hfits : (nestedSum 1999).length ≤ ({} : Settings).greatestLength := by
    rw [hlength]
    decide
  have hfilled : nestedSum 1999 ≠ "" := by
    intro h
    rw [h] at hlength
    cases hlength
  have hroom : Room.usual.building < 1999 := by decide
  refine ⟨hfilled, hfits, ?_, ?_⟩
  · rw [respond_validate, withinLength_of_le hfits]
    obtain ⟨listed, hvalidated⟩ := exists_validated_of_ok (parse_nestedSum 1999)
    exact ⟨listed, hvalidated⟩
  · rw [respond_evaluate hfilled, withinLength_of_le hfits,
      evaluateExpression_of_tooDeep (calculateWithin_nestedSum hroom)]

end Calculator.Service
