import Calculator.Proofs.Grammar.Shape

/-!
The grammar with any number of signs in front of an operand, read from left to right. What has been
read says only whether an operand is to come and how many groups are open; the reading ends well on
exactly the sums of the grammar.
-/

namespace Calculator

open Derives

namespace Token

/-- Whether a token can stand where an operand is to come, or else where one has ended. -/
def fits (awaited : Bool) : Token → Bool
  | number _ | opening => awaited
  | sign _ => true
  | scale _ | closing => !awaited
  | other _ => false

/-- The number of open groups after a token, unless the token closes what is not open. -/
def depthAfter? (depth : Nat) : Token → Option Nat
  | opening => some (depth + 1)
  | closing => if depth = 0 then none else some (depth - 1)
  | _ => some depth

end Token

/-- How far the tokens of an expression have been read: whether an operand is to come, and the
number of open groups. -/
structure Progress where
  awaited : Bool
  depth : Nat
deriving DecidableEq

namespace Progress

def start : Progress := ⟨true, 0⟩

def finished : Progress := ⟨false, 0⟩

def step? (p : Progress) (t : Token) : Option Progress :=
  if t.fits p.awaited then (t.depthAfter? p.depth).map fun depth => ⟨!t.endsOperand, depth⟩
  else none

def run? (p : Progress) (tokens : List Token) : Option Progress := tokens.foldlM step? p

variable {admits : List Sign → Prop} {phrase : Phrase} {span : List Token} {e : Expr}
  {p q : Progress}

theorem run?_cons (p : Progress) (t : Token) (tokens : List Token) :
    p.run? (t :: tokens) = (p.step? t).bind fun q => q.run? tokens := by
  rw [run?, List.foldlM_cons]
  rfl

theorem run?_cons_eq_some_iff (awaited : Bool) (depth : Nat) (t : Token) (tokens : List Token) :
    run? ⟨awaited, depth⟩ (t :: tokens) = some q ↔
      t.fits awaited = true ∧
        ∃ after, t.depthAfter? depth = some after ∧
          run? ⟨!t.endsOperand, after⟩ tokens = some q := by
  simp only [run?_cons, step?, Option.bind_eq_some_iff, Option.ite_none_right_eq_some,
    Option.map_eq_some_iff]
  constructor
  · rintro ⟨_, ⟨hfits, after, hafter, rfl⟩, hrun⟩
    exact ⟨hfits, after, hafter, hrun⟩
  · rintro ⟨hfits, after, hafter, hrun⟩
    exact ⟨_, ⟨hfits, after, hafter, rfl⟩, hrun⟩

theorem run?_append (p : Progress) (left right : List Token) :
    p.run? (left ++ right) = (p.run? left).bind fun q => q.run? right := by
  rw [run?, List.foldlM_append]
  rfl

theorem step?_sign (p : Progress) (s : Sign) : p.step? (.sign s) = some ⟨true, p.depth⟩ := by
  obtain ⟨awaited, depth⟩ := p
  cases awaited <;> rfl

theorem run?_signs (run : List Sign) (depth : Nat) :
    run? ⟨true, depth⟩ (run.map .sign) = some ⟨true, depth⟩ := by
  induction run with
  | nil => rfl
  | cons s run ih => exact ih

theorem run?_of_derives (d : Derives admits phrase span e) (depth : Nat) :
    run? ⟨true, depth⟩ span = some ⟨false, depth⟩ := by
  induction d generalizing depth with
  | numeral n => rfl
  | group _ ih =>
      change (run? ⟨true, depth + 1⟩ (_ ++ [.closing])) = _
      rw [run?_append, ih]
      rfl
  | signs _ _ ih => rw [run?_append, run?_signs, Option.bind_some, ih]
  | factor _ ih => exact ih depth
  | scaled s _ _ ihl ihr =>
      rw [run?_append, ihl, Option.bind_some, run?_cons]
      exact ihr depth
  | product _ ih => exact ih depth
  | added s _ _ ihl ihr =>
      rw [run?_append, ihl, Option.bind_some, run?_cons, step?_sign, Option.bind_some, ihr]

/-- That tokens end with a sum inside as many groups as are open: a factor in the place of the
innermost group would go on with the sum around it. -/
def Begun : Nat → List Token → Prop
  | 0, read => ∃ e, Derives Sign.AnyNumber .sum read e
  | depth + 1, read => ∃ outer inner e, read = outer ++ .opening :: inner ∧
      Derives Sign.AnyNumber .sum inner e ∧
      ∀ factor a, Derives Sign.AnyNumber .factor factor a → Begun depth (outer ++ factor)

def Holds : Progress → List Token → Prop
  | ⟨false, depth⟩, read => Begun depth read
  | ⟨true, depth⟩, read =>
      ∀ factor a, Derives Sign.AnyNumber .factor factor a → Begun depth (read ++ factor)

theorem holds_start : start.Holds [] :=
  fun _ a d => ⟨a, .product (.factor d)⟩

theorem sign_factor (s : Sign) (d : Derives Sign.AnyNumber .factor span e) :
    Derives Sign.AnyNumber .factor (.sign s :: span) (.unary s e) := by
  cases d with
  | @signs run operand a _ doperand =>
      have hrun : Sign.AnyNumber (s :: run) := trivial
      exact .signs hrun doperand

/-- An operator after a sum, in whatever groups, asks for one more factor. -/
theorem begun_append_operator {depth : Nat} {read : List Token} (o : Operator)
    (h : Begun depth read) : Holds ⟨true, depth⟩ (read ++ [o.token]) := by
  intro factor a dfactor
  rw [List.append_assoc, List.singleton_append]
  cases depth with
  | zero =>
      obtain ⟨e, d⟩ := h
      exact exists_append_factor o d dfactor
  | succ depth =>
      obtain ⟨outer, inner, e, rfl, dinner, houter⟩ := h
      obtain ⟨b, db⟩ := exists_append_factor o dinner dfactor
      exact ⟨outer, inner ++ o.token :: factor, b, by simp, db, houter⟩

theorem holds_step {t : Token} {read : List Token} (h : p.step? t = some q) (hp : p.Holds read) :
    q.Holds (read ++ [t]) := by
  obtain ⟨awaited, depth⟩ := p
  simp only [step?, Option.ite_none_right_eq_some, Option.map_eq_some_iff] at h
  obtain ⟨hfits, after, hafter, rfl⟩ := h
  match t, awaited, hfits with
  | .number n, true, _ =>
      cases hafter
      exact hp [.number n] _ (factor_of_operand trivial (.numeral n))
  | .sign s, false, _ =>
      cases hafter
      exact begun_append_operator (.additive s) hp
  | .sign s, true, _ =>
      cases hafter
      intro factor a dfactor
      rw [List.append_assoc]
      exact hp _ _ (sign_factor s dfactor)
  | .scale s, false, _ =>
      cases hafter
      exact begun_append_operator (.multiplicative s) hp
  | .opening, true, _ =>
      -- What was known of a factor here is kept for the group when it ends.
      cases hafter
      intro factor a dfactor
      exact ⟨read, factor, a, by simp, .product (.factor dfactor), hp⟩
  | .closing, false, _ =>
      -- The group that ends here is a factor, and the invariant says where one may stand.
      match depth, hp with
      | depth + 1, ⟨outer, inner, e, hread, dinner, houter⟩ =>
          cases hafter
          subst hread
          change Begun depth (outer ++ .opening :: inner ++ [.closing])
          simpa using houter _ _ (factor_of_operand trivial (.group dinner))

theorem holds_run {tokens read : List Token} (h : p.run? tokens = some q) (hp : p.Holds read) :
    q.Holds (read ++ tokens) := by
  induction tokens generalizing p read with
  | nil =>
      cases h
      rwa [List.append_nil]
  | cons t tokens ih =>
      rw [run?_cons] at h
      obtain ⟨next, hstep, hrest⟩ := Option.bind_eq_some_iff.mp h
      have hholds := ih hrest (holds_step hstep hp)
      rwa [List.append_assoc] at hholds

theorem run?_start_eq_finished_iff (tokens : List Token) :
    start.run? tokens = some finished ↔ ∃ e, Derives Sign.AnyNumber .sum tokens e := by
  constructor
  · exact fun h => holds_run h holds_start
  · rintro ⟨e, d⟩
    exact run?_of_derives d 0

end Progress

end Calculator
