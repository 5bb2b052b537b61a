import Calculator.Proofs.Expr.Splitting
import Calculator.Proofs.Grammar.Meaning
import Calculator.Proofs.Grammar.Progress

namespace Calculator

open Token

namespace Token

theorem depthAfter?_add {t : Token} {depth next : Nat} (h : t.depthAfter? depth = some next)
    (more : Nat) : t.depthAfter? (depth + more) = some (next + more) := by
  cases t with
  | opening =>
      cases h
      rw [depthAfter?, Nat.add_right_comm]
  | closing =>
      cases depth with
      | zero => cases h
      | succ depth =>
          cases h
          rw [depthAfter?, if_neg (by omega)]
          exact congrArg some (by omega)
  | number _ | sign _ | scale _ | other _ =>
      cases h
      rfl

end Token

namespace Progress

/-- Groups that are open around what is read stay open. -/
theorem run?_add {awaited awaited' : Bool} {depth depth' : Nat} {tokens : List Token}
    (h : run? ⟨awaited, depth⟩ tokens = some ⟨awaited', depth'⟩) (more : Nat) :
    run? ⟨awaited, depth + more⟩ tokens = some ⟨awaited', depth' + more⟩ := by
  induction tokens generalizing awaited depth with
  | nil =>
      cases h
      rfl
  | cons t tokens ih =>
      obtain ⟨hfits, next, hnext, hrest⟩ := (run?_cons_eq_some_iff _ _ _ _).mp h
      exact (run?_cons_eq_some_iff _ _ _ _).mpr
        ⟨hfits, next + more, depthAfter?_add hnext more, ih hrest⟩

end Progress

namespace Derives

variable {admits more : List Sign → Prop} {phrase : Phrase} {t : Token} {e a a' : Expr}
  {before inner inner' after left right span : List Token}

/-- No phrase ends inside a group that it opens. -/
theorem not_derives_open (d : Derives more .sum (inner ++ right) a) :
    ¬ Derives admits phrase (before ++ .opening :: inner) e := by
  intro h
  have hwhole := Progress.run?_of_derives h 0
  rw [Progress.run?_append, Option.bind_eq_some_iff] at hwhole
  obtain ⟨⟨awaited, depth⟩, -, hgroup⟩ := hwhole
  obtain ⟨-, next, hnext, hinner⟩ := (Progress.run?_cons_eq_some_iff _ _ _ _).mp hgroup
  obtain rfl : depth + 1 = next := Option.some.inj hnext
  have hsum := Progress.run?_of_derives d 0
  rw [Progress.run?_append, Option.bind_eq_some_iff] at hsum
  obtain ⟨⟨awaited', depth'⟩, hbegun, -⟩ := hsum
  have hdeeper := Progress.run?_add hbegun (depth + 1)
  rw [Nat.zero_add] at hdeeper
  have hend := hinner.symm.trans hdeeper
  simp only [Option.some.injEq, Progress.mk.injEq] at hend
  omega

/-- A group does not go across an operator that ends a phrase. -/
theorem group_left_or_right (dl : Derives admits phrase left e) (di : Derives more .sum inner a)
    (ht : t.isParenthesis = false)
    (h : left ++ t :: right = before ++ .opening :: (inner ++ .closing :: after)) :
    (∃ rest, left = before ++ .opening :: (inner ++ .closing :: rest) ∧
        after = rest ++ t :: right) ∨
      ∃ lead, before = left ++ t :: lead ∧
        right = lead ++ .opening :: (inner ++ .closing :: after) := by
  rcases List.append_eq_append_iff.mp h with ⟨lead, hbefore, hright⟩ | ⟨begun, hleft, hgroup⟩
  · cases lead with
    | nil =>
        obtain ⟨rfl, -⟩ := List.cons.inj hright
        cases ht
    | cons u lead =>
        obtain ⟨rfl, htail⟩ := List.cons.inj hright
        exact .inr ⟨lead, hbefore, htail⟩
  · cases begun with
    | nil =>
        obtain ⟨rfl, -⟩ := List.cons.inj hgroup
        cases ht
    | cons u begun =>
        obtain ⟨rfl, htail⟩ := List.cons.inj hgroup
        rcases List.append_eq_append_iff.mp htail with ⟨rest, rfl, hafter⟩ | ⟨rest, rfl, -⟩
        · cases rest with
          | nil =>
              obtain ⟨rfl, -⟩ := List.cons.inj hafter
              cases ht
          | cons u rest =>
              obtain ⟨rfl, hrest⟩ := List.cons.inj hafter
              exact .inl ⟨rest, hleft, hrest⟩
        · rw [hleft] at dl
          exact absurd dl (not_derives_open di)

/-- In a group another group is all of it or lies within its interior. -/
theorem group_all_or_inside (ds : Derives admits .sum span e) (di : Derives more .sum inner a)
    (h : .opening :: span ++ [.closing] =
      before ++ .opening :: (inner ++ .closing :: after)) :
    (before = [] ∧ inner = span ∧ after = []) ∨
      ∃ lead rest, before = .opening :: lead ∧ after = rest ++ [.closing] ∧
        span = lead ++ .opening :: (inner ++ .closing :: rest) := by
  cases before with
  | nil =>
      left
      obtain ⟨-, h⟩ := List.cons.inj h
      rcases List.eq_nil_or_concat after with rfl | ⟨rest, last, rfl⟩
      · exact ⟨rfl, (List.append_inj' h rfl).1.symm, rfl⟩
      · rw [List.concat_eq_append, ← List.cons_append, ← List.append_assoc] at h
        obtain ⟨rfl, -⟩ := List.append_inj' h rfl
        have hopen := ds.staysOpen
        rw [di.staysOpen_append] at hopen
        cases hopen
  | cons u lead =>
      right
      obtain ⟨rfl, h⟩ := List.cons.inj h
      rcases List.eq_nil_or_concat after with rfl | ⟨rest, last, rfl⟩
      · have hspan : span ++ [.closing] = (lead ++ .opening :: inner) ++ [.closing] := by
          simpa using h
        obtain ⟨rfl, -⟩ := List.append_inj' hspan rfl
        rw [← List.append_nil inner] at di
        exact absurd ds (not_derives_open di)
      · have hspan : span ++ [.closing] =
            (lead ++ .opening :: (inner ++ .closing :: rest)) ++ [last] := by simpa using h
        obtain ⟨hinside, hlast⟩ := List.append_inj' hspan rfl
        obtain ⟨rfl, -⟩ := List.cons.inj hlast
        exact ⟨lead, rest, rfl, List.concat_eq_append, hinside⟩

theorem group_behind_signs (run : List Sign)
    (h : run.map .sign ++ span = before ++ .opening :: (inner ++ .closing :: after)) :
    ∃ lead, before = run.map .sign ++ lead ∧
      span = lead ++ .opening :: (inner ++ .closing :: after) := by
  rcases List.append_eq_append_iff.mp h with ⟨lead, hbefore, hspan⟩ | ⟨signs, hrun, hgroup⟩
  · exact ⟨lead, hbefore, hspan⟩
  · cases signs with
    | nil =>
        rw [List.append_nil] at hrun
        exact ⟨[], by rw [hrun, List.append_nil], hgroup.symm⟩
    | cons u signs =>
        obtain ⟨rfl, -⟩ := List.cons.inj hgroup
        have hmem : opening ∈ run.map Token.sign := hrun ▸ by simp
        obtain ⟨s, -, hs⟩ := List.mem_map.mp hmem
        cases hs

theorem evaluate_eq_of_derives (d : Derives Sign.AnyNumber .sum span a)
    (d' : Derives Sign.AnyNumber .sum span a') : a.evaluate = a'.evaluate := by
  obtain ⟨b, db, hb⟩ := d.exists_mergeSigns
  obtain ⟨b', db', hb'⟩ := d'.exists_mergeSigns
  rw [← hb, ← hb', Expr.eq_of_derives db db']

/-- That wherever a group stands in a span, another group may stand and the value stays. -/
def ReplacesGroup (inner inner' : List Token) (phrase : Phrase) (span : List Token) (e : Expr) :
    Prop :=
  ∀ before after, span = before ++ .opening :: (inner ++ .closing :: after) →
    ∃ e', Derives Sign.AnyNumber phrase (before ++ .opening :: (inner' ++ .closing :: after)) e' ∧
      e'.evaluate = e.evaluate

section Replacement

variable (di : Derives Sign.AnyNumber .sum inner a)

include di

theorem replacesGroup_group (di' : Derives Sign.AnyNumber .sum inner' a')
    (hvalue : a'.evaluate = a.evaluate) (ds : Derives Sign.AnyNumber .sum span e)
    (ih : ReplacesGroup inner inner' .sum span e) :
    ReplacesGroup inner inner' .operand (.opening :: span ++ [.closing]) e := by
  intro before after hspan
  rcases group_all_or_inside ds di hspan with ⟨rfl, rfl, rfl⟩ | ⟨lead, rest, rfl, rfl, hinside⟩
  · refine ⟨a', by simpa using Derives.group di', ?_⟩
    rw [hvalue, evaluate_eq_of_derives di ds]
  · obtain ⟨e', d', he'⟩ := ih lead rest hinside
    exact ⟨e', by simpa using Derives.group d', he'⟩

theorem replacesGroup_around {leftPhrase rightPhrase : Phrase} {o : Operator} {l r : Expr}
    (build : ∀ {left right : List Token} {l r : Expr}, Derives Sign.AnyNumber leftPhrase left l →
      Derives Sign.AnyNumber rightPhrase right r →
      Derives Sign.AnyNumber phrase (left ++ o.token :: right) (.binary o l r))
    (dl : Derives Sign.AnyNumber leftPhrase left l)
    (dr : Derives Sign.AnyNumber rightPhrase right r)
    (ihl : ReplacesGroup inner inner' leftPhrase left l)
    (ihr : ReplacesGroup inner inner' rightPhrase right r) :
    ReplacesGroup inner inner' phrase (left ++ o.token :: right) (.binary o l r) := by
  intro before after hspan
  have ho : o.token.isParenthesis = false := by
    cases o <;> rfl
  rcases group_left_or_right dl di ho hspan with ⟨rest, hleft, rfl⟩ | ⟨lead, rfl, hright⟩
  · obtain ⟨l', dl', hl'⟩ := ihl before rest hleft
    refine ⟨.binary o l' r, by simpa using build dl' dr, ?_⟩
    rw [Expr.evaluate, hl', Expr.evaluate]
  · obtain ⟨r', dr', hr'⟩ := ihr lead after hright
    refine ⟨.binary o l r', by simpa using build dl dr', ?_⟩
    rw [Expr.evaluate, hr', Expr.evaluate]

end Replacement

theorem replacesGroup_signs {run : List Sign} (ih : ReplacesGroup inner inner' .operand span e) :
    ReplacesGroup inner inner' .factor (run.map .sign ++ span) (e.signed run) := by
  intro before after hspan
  obtain ⟨lead, rfl, hoperand⟩ := group_behind_signs run hspan
  obtain ⟨e', d', he'⟩ := ih lead after hoperand
  refine ⟨e'.signed run, ?_, ?_⟩
  · rw [List.append_assoc]
    exact .signs trivial d'
  · rw [Expr.evaluate_signed, Expr.evaluate_signed, he']

/-- Whatever a group stands in, another group of the same value may stand there instead. -/
theorem replacesGroup (d : Derives Sign.AnyNumber phrase span e)
    (di : Derives Sign.AnyNumber .sum inner a) (di' : Derives Sign.AnyNumber .sum inner' a')
    (hvalue : a'.evaluate = a.evaluate) : ReplacesGroup inner inner' phrase span e := by
  induction d with
  | numeral n =>
      intro before after hspan
      have hmem : opening ∈ [Token.number n] := hspan ▸ by simp
      cases List.mem_singleton.mp hmem
  | group ds ih => exact replacesGroup_group di di' hvalue ds ih
  | signs _ _ ih => exact replacesGroup_signs ih
  | factor _ ih =>
      intro before after hspan
      obtain ⟨e', d', he'⟩ := ih before after hspan
      exact ⟨e', .factor d', he'⟩
  | @scaled s left right l r dl dr ihl ihr =>
      have build := fun {left right l r} => @Derives.scaled Sign.AnyNumber s left right l r
      exact replacesGroup_around (o := .multiplicative s) di build dl dr ihl ihr
  | product _ ih =>
      intro before after hspan
      obtain ⟨e', d', he'⟩ := ih before after hspan
      exact ⟨e', .product d', he'⟩
  | @added s left right l r dl dr ihl ihr =>
      have build := fun {left right l r} => @Derives.added Sign.AnyNumber s left right l r
      exact replacesGroup_around (o := .additive s) di build dl dr ihl ihr

end Derives

end Calculator
