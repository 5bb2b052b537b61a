import Calculator.Expr.Builder
import Calculator.Grammar

namespace Calculator

namespace Sign

/-- A sign in front of an operand, or none. -/
def AtMostOne (run : List Sign) : Prop := run.length ≤ 1

/-- Any run of signs in front of an operand. -/
def AnyNumber (_ : List Sign) : Prop := True

end Sign

namespace Token

theorem staysOpen_signs (run : List Sign) (depth : Nat) (rest : List Token) :
    staysOpen depth (run.map .sign ++ rest) = staysOpen depth rest := by
  induction run with
  | nil => rfl
  | cons s run ih => exact ih

theorem interior?_eq_some_iff (span inner : List Token) :
    interior? span = some inner ↔
      span = .opening :: inner ++ [.closing] ∧ staysOpen 0 inner = true := by
  constructor
  · intro h
    match span with
    | .opening :: rest =>
        simp only [interior?, Option.ite_none_right_eq_some, Option.some.injEq] at h
        obtain ⟨⟨hlast, hopen⟩, rfl⟩ := h
        obtain ⟨inner, rfl⟩ := List.getLast?_eq_some_iff.mp hlast
        simpa using hopen
    | [] | .number _ :: _ | .sign _ :: _ | .scale _ :: _ | .closing :: _ | .other _ :: _ =>
        simp [interior?] at h
  · rintro ⟨rfl, hopen⟩
    simp [interior?, hopen]

end Token

theorem reverse_around (left right before : List Token) (t : Token) :
    (left ++ t :: right).reverse ++ before = right.reverse ++ t :: (left.reverse ++ before) := by
  simp

namespace Derives

variable {admits : List Sign → Prop} {phrase : Phrase} {span left right : List Token}
  {e l r : Expr}

/-- Products grow to the right, factor by factor, and sums product by product. -/
theorem product_induction {motive : ∀ span e, Derives admits .product span e → Prop}
    (factor : ∀ {span e} (whole : Derives admits .factor span e), motive span e (.factor whole))
    (scaled : ∀ {left right l r} (s : Scale) (dl : Derives admits .product left l)
      (dr : Derives admits .factor right r), motive left l dl → motive _ _ (.scaled s dl dr))
    {span e} (d : Derives admits .product span e) : motive span e d := by
  -- Induction on a derivation needs the kind of its phrase to be a variable.
  suffices h : ∀ {phrase span e} (d : Derives admits phrase span e) (hphrase : phrase = .product),
      motive span e (hphrase ▸ d) from h d rfl
  intro phrase span e d
  induction d with
  | factor whole _ => exact fun _ => factor whole
  | scaled s dl dr ihl _ => exact fun _ => scaled s dl dr (ihl rfl)
  | numeral _ | group _ _ | signs _ _ _ | product _ _ | added _ _ _ _ _ => nofun

theorem sum_induction {motive : ∀ span e, Derives admits .sum span e → Prop}
    (product : ∀ {span e} (whole : Derives admits .product span e), motive span e (.product whole))
    (added : ∀ {left right l r} (s : Sign) (dl : Derives admits .sum left l)
      (dr : Derives admits .product right r), motive left l dl → motive _ _ (.added s dl dr))
    {span e} (d : Derives admits .sum span e) : motive span e d := by
  suffices h : ∀ {phrase span e} (d : Derives admits phrase span e) (hphrase : phrase = .sum),
      motive span e (hphrase ▸ d) from h d rfl
  intro phrase span e d
  induction d with
  | product whole _ => exact fun _ => product whole
  | added s dl dr ihl _ => exact fun _ => added s dl dr (ihl rfl)
  | numeral _ | group _ _ | signs _ _ _ | factor _ _ | scaled _ _ _ _ _ => nofun

theorem factor_of_operand (bare : admits []) (d : Derives admits .operand span e) :
    Derives admits .factor span e :=
  .signs bare d

theorem factor_of_signed {s : Sign} (single : admits [s]) (d : Derives admits .operand span e) :
    Derives admits .factor (.sign s :: span) (.unary s e) :=
  .signs single d

theorem staysOpen_append (d : Derives admits phrase span e) (depth : Nat) (rest : List Token) :
    Token.staysOpen depth (span ++ rest) = Token.staysOpen depth rest := by
  induction d generalizing depth rest with
  | numeral n => rfl
  | group _ ih =>
      simp only [List.cons_append, List.append_assoc, Token.staysOpen, ih]
      rfl
  | signs _ _ ih => rw [List.append_assoc, Token.staysOpen_signs, ih]
  | factor _ ih => exact ih depth rest
  | scaled s _ _ ihl ihr =>
      rw [List.append_assoc, ihl]
      exact ihr depth rest
  | product _ ih => exact ih depth rest
  | added s _ _ ihl ihr =>
      rw [List.append_assoc, ihl]
      exact ihr depth rest

theorem staysOpen (d : Derives admits phrase span e) : Token.staysOpen 0 span = true := by
  simpa [Token.staysOpen] using d.staysOpen_append 0 []

/-- Read from the right, a phrase begins with the end of an operand. -/
theorem endsOperand_head? (d : Derives admits phrase span e) (before : List Token) :
    (span.reverse ++ before).head?.any Token.endsOperand = true := by
  induction d generalizing before with
  | numeral n => rfl
  | group _ _ =>
      rw [List.reverse_append]
      rfl
  | signs _ _ ih =>
      rw [List.reverse_append, List.append_assoc]
      exact ih _
  | factor _ ih => exact ih before
  | scaled s _ _ _ ih =>
      rw [reverse_around]
      exact ih _
  | product _ ih => exact ih before
  | added s _ _ _ ih =>
      rw [reverse_around]
      exact ih _

theorem length_pos (d : Derives admits phrase span e) : 0 < span.length :=
  List.length_pos_iff.mpr d.span_ne_nil

theorem eq_number_of_length_le_one (d : Derives admits phrase span e) (h : span.length ≤ 1) :
    ∃ n, span = [.number n] ∧ e = .number n.value := by
  induction d with
  | numeral n => exact ⟨n, rfl, rfl⟩
  | group _ _ => simp at h
  | @signs run span e _ doperand ih =>
      have hpos := doperand.length_pos
      simp only [List.length_append, List.length_map] at h
      obtain rfl : run = [] := List.length_eq_zero_iff.mp (by omega)
      exact ih (by omega)
  | factor _ ih => exact ih h
  | scaled s dl _ _ _ =>
      have hpos := dl.length_pos
      simp only [List.length_append, List.length_cons] at h
      omega
  | product _ ih => exact ih h
  | added s dl _ _ _ =>
      have hpos := dl.length_pos
      simp only [List.length_append, List.length_cons] at h
      omega

/-- A sum begins with a factor, and has its tree if nothing follows. -/
theorem exists_leading_factor (d : Derives admits .sum span e) :
    ∃ first rest a, Derives admits .factor first a ∧ span = first ++ rest ∧
      (rest = [] → e = a) := by
  induction d using sum_induction with
  | product whole =>
      induction whole using product_induction with
      | factor whole => exact ⟨_, [], _, whole, (List.append_nil _).symm, fun _ => rfl⟩
      | @scaled _ right _ _ s _ _ ih =>
          obtain ⟨first, rest, a, dfirst, rfl, -⟩ := ih
          exact ⟨first, rest ++ .scale s :: right, a, dfirst, by simp, by simp⟩
  | @added _ right _ _ s _ _ ih =>
      obtain ⟨first, rest, a, dfirst, rfl, -⟩ := ih
      exact ⟨first, rest ++ .sign s :: right, a, dfirst, by simp, by simp⟩

theorem exists_leading_group {tail : List Token} (d : Derives admits .sum (.opening :: tail) e) :
    ∃ inner rest g, Derives admits .sum inner g ∧ tail = inner ++ .closing :: rest ∧
      (rest = [] → e = g) := by
  obtain ⟨first, rest, a, dfirst, hspan, hwhole⟩ := exists_leading_factor d
  cases dfirst with
  | @signs run operand a _ doperand =>
      cases run with
      | nil =>
          cases doperand with
          | numeral n => cases hspan
          | @group inner _ dinner =>
              simp only [List.map_nil, List.nil_append, List.cons_append, List.append_assoc,
                List.cons.injEq, true_and] at hspan
              exact ⟨inner, rest, a, dinner, hspan, hwhole⟩
      | cons s run => cases hspan

theorem operand_or_signed (d : Derives Sign.AtMostOne .factor span e) :
    Derives Sign.AtMostOne .operand span e ∨
      ∃ s operand a, Derives Sign.AtMostOne .operand operand a ∧
        span = .sign s :: operand ∧ e = .unary s a := by
  cases d with
  | @signs run operand a admitted doperand =>
      match run with
      | [] => exact .inl doperand
      | [s] => exact .inr ⟨s, operand, a, doperand, rfl, rfl⟩
      | _ :: _ :: _ => simp [Sign.AtMostOne] at admitted

theorem exists_leading_sign {s : Sign} {tail : List Token}
    (d : Derives Sign.AtMostOne .sum (.sign s :: tail) e) :
    ∃ operand rest a, Derives Sign.AtMostOne .operand operand a ∧ tail = operand ++ rest ∧
      (rest = [] → e = .unary s a) := by
  obtain ⟨first, rest, a, dfirst, hspan, hwhole⟩ := exists_leading_factor d
  rcases operand_or_signed dfirst with doperand | ⟨t, operand, a, doperand, rfl, rfl⟩
  · cases doperand with
    | numeral n => cases hspan
    | group _ => cases hspan
  · cases hspan
    exact ⟨operand, rest, a, doperand, rfl, hwhole⟩

/-- The first group of a span closes at the end of the span, or the span has no interior. -/
theorem eq_of_interior?_leading_group {rest inner : List Token} (d : Derives admits .sum span e)
    (h : Token.interior? (.opening :: (span ++ .closing :: rest)) = some inner) :
    rest = [] ∧ inner = span := by
  obtain ⟨hspan, hopen⟩ := (Token.interior?_eq_some_iff _ inner).mp h
  simp only [List.cons_append, List.cons.injEq, true_and] at hspan
  rcases List.eq_nil_or_concat rest with rfl | ⟨more, last, rfl⟩
  · exact ⟨rfl, (List.append_inj' hspan rfl).1.symm⟩
  · -- The interior would hold the parenthesis that closes the first group.
    rw [List.concat_eq_append, ← List.cons_append, ← List.append_assoc] at hspan
    obtain ⟨rfl, -⟩ := List.append_inj' hspan rfl
    rw [d.staysOpen_append] at hopen
    cases hopen

theorem of_interior? {inner : List Token} (d : Derives admits .sum span e)
    (h : Token.interior? span = some inner) : Derives admits .sum inner e := by
  obtain ⟨rfl, -⟩ := (Token.interior?_eq_some_iff span inner).mp h
  rw [List.cons_append] at d h
  obtain ⟨first, rest, g, dfirst, htail, hwhole⟩ := exists_leading_group d
  rw [htail] at h
  obtain ⟨rfl, rfl⟩ := eq_of_interior?_leading_group dfirst h
  exact hwhole rfl ▸ dfirst

theorem of_interior?_tail {s : Sign} {group inner : List Token}
    (d : Derives Sign.AtMostOne .sum (.sign s :: group) e)
    (h : Token.interior? group = some inner) :
    ∃ a, Derives Sign.AtMostOne .sum group a ∧ e = .unary s a := by
  obtain ⟨operand, rest, a, doperand, rfl, hwhole⟩ := exists_leading_sign d
  cases doperand with
  | numeral n => simp [Token.interior?] at h
  | @group g _ dg =>
      simp only [List.cons_append, List.append_assoc, List.nil_append] at h
      obtain ⟨rfl, rfl⟩ := eq_of_interior?_leading_group dg h
      refine ⟨a, ?_, hwhole rfl⟩
      simpa using toSum (Nat.zero_le 1) (.group dg)

theorem interior?_group (d : Derives admits .sum span e) :
    Token.interior? (.opening :: span ++ [.closing]) = some span :=
  (Token.interior?_eq_some_iff _ _).mpr ⟨rfl, d.staysOpen⟩

theorem exists_append_factor (o : Operator) (dl : Derives admits .sum left l)
    (dr : Derives admits .factor right r) :
    ∃ e, Derives admits .sum (left ++ o.token :: right) e := by
  cases o with
  | additive s => exact ⟨_, .added s dl (.factor dr)⟩
  | multiplicative s =>
      cases dl with
      | product dp => exact ⟨_, .product (.scaled s dp dr)⟩
      | @added t _ _ a b dsum dp =>
          -- The factor joins the last product, below the operator of the sum.
          refine ⟨.binary (.additive t) a (.binary (.multiplicative s) b r), ?_⟩
          rw [List.append_assoc, List.cons_append]
          exact .added t dsum (.scaled s dp dr)

/-- Two sums with an operator between them are a sum. Its tree is another one if the operator binds
more tightly than those of the sums. -/
theorem exists_append (o : Operator) (dl : Derives admits .sum left l)
    (dr : Derives admits .sum right r) :
    ∃ e, Derives admits .sum (left ++ o.token :: right) e := by
  induction dr using sum_induction with
  | product whole =>
      induction whole using product_induction with
      | factor whole => exact exists_append_factor o dl whole
      | scaled s _ dfactor ih =>
          obtain ⟨e, d⟩ := ih
          simpa [Operator.token] using exists_append_factor (.multiplicative s) d dfactor
  | added s _ dproduct ih =>
      obtain ⟨e, d⟩ := ih
      exact ⟨_, by simpa using Derives.added s d dproduct⟩

end Derives

end Calculator
