import Calculator.Issue
import Calculator.Expr

/-!
From tokens to a tree by splitting spans. A span inside one pair of parentheses is stripped of
them; a short span is read directly; a sign before one group is a unary operator; any other span
is split at the operator that is applied last.
-/

namespace Calculator

namespace Token

/-- Whether the parentheses of a list close only what the list opens, with `depth` of them open at
first. -/
def staysOpen (depth : Nat) : List Token → Bool
  | [] => true
  | .opening :: rest => staysOpen (depth + 1) rest
  | .closing :: rest =>
    match depth with
    | 0 => false
    | depth + 1 => staysOpen depth rest
  | _ :: rest => staysOpen depth rest

/-- What one pair of parentheses around a whole span encloses. -/
def interior? : List Token → Option (List Token)
  | .opening :: rest =>
    if rest.getLast? = some .closing ∧ staysOpen 0 rest.dropLast then some rest.dropLast else none
  | _ => none

theorem length_lt_of_interior? {span inner : List Token} (h : interior? span = some inner) :
    inner.length < span.length := by
  match span with
  | .opening :: rest =>
    simp only [interior?] at h
    split at h
    · cases h
      simp only [List.length_dropLast, List.length_cons]
      omega
    · cases h
  | [] | .number _ :: _ | .sign _ :: _ | .scale _ :: _ | .closing :: _ | .other _ :: _ =>
    simp [interior?] at h

def rise : Token → Int
  | .closing => 1
  | .opening => -1
  | _ => 0

end Token

structure Split where
  left : List Token
  operator : Operator
  right : List Token
deriving DecidableEq

namespace Split

def span (s : Split) : List Token := s.left ++ s.operator.token :: s.right

/-- Goes through a span from its right end, with `depth` parentheses open. The first sign outside
all parentheses that joins two operands is taken at once, the first other operator outside them
only when no such sign is left. -/
def search (depth : Int) (found : Option Split) : List Token → List Token → Option Split
  | [], _ => found
  | .sign s :: before, after =>
    if depth = 0 ∧ (before.head?).any Token.endsOperand then
      some ⟨before.reverse, .additive s, after⟩
    else search depth found before (.sign s :: after)
  | .scale s :: before, after =>
    let found :=
      if depth = 0 then found.orElse fun _ => some ⟨before.reverse, .multiplicative s, after⟩
      else found
    search depth found before (.scale s :: after)
  | t :: before, after => search (depth + t.rise) found before (t :: after)

def main? (span : List Token) : Option Split := search 0 none span.reverse []

theorem span_of_search {depth : Int} {found : Option Split} {before after : List Token} {s : Split}
    (hfound : ∀ f ∈ found, f.span = before.reverse ++ after)
    (h : search depth found before after = some s) : s.span = before.reverse ++ after := by
  fun_induction search depth found before after with
  | case1 => exact hfound s h
  | case2 =>
    cases h
    simp [span, Operator.token]
  | case3 depth found sign before after _ ih => simpa using ih (by simpa using hfound) h
  | case4 depth found scale before after found' ih =>
    suffices ∀ f ∈ found', f.span = before.reverse ++ .scale scale :: after by
      simpa using ih this h
    intro f hf
    simp only [found'] at hf
    split at hf
    · cases found with
      | none =>
        cases hf
        simp [span, Operator.token]
      | some g => simpa using hfound f hf
    · simpa using hfound f hf
  | case5 depth found t before after _ _ ih => simpa using ih (by simpa using hfound) h

theorem span_of_main? {span : List Token} {s : Split} (h : main? span = some s) :
    s.span = span := by
  simpa using span_of_search (by simp) h

end Split

namespace Expr

def simple (position : Nat) : List Token → Except BuildFault Expr
  | [.number n] => .ok (.number n.value)
  | [.sign s, .number n] => .ok (.unary s (.number n.value))
  | [.number a, .sign s, .number b] =>
    .ok (.binary (.additive s) (.number a.value) (.number b.value))
  | [.number a, .scale s, .number b] =>
    .ok (.binary (.multiplicative s) (.number a.value) (.number b.value))
  | span => .error (.malformed span position)

def signedGroup? : List Token → Option (Sign × List Token)
  | .sign s :: rest => if (Token.interior? rest).isSome then some (s, rest) else none
  | _ => none

theorem length_lt_of_signedGroup? {span group : List Token} {s : Sign}
    (h : signedGroup? span = some (s, group)) : group.length < span.length := by
  match span with
  | .sign _ :: rest =>
    simp only [signedGroup?] at h
    split at h
    · cases h
      simp
    · cases h
  | [] | .number _ :: _ | .opening :: _ | .scale _ :: _ | .closing :: _ | .other _ :: _ =>
    simp [signedGroup?] at h

/-- The tree of a span that begins at a position of a longer list. -/
def ofSpan (position : Nat) (span : List Token) : Except BuildFault Expr :=
  match hi : Token.interior? span with
  | some inner => ofSpan (position + 1) inner
  | none =>
    if span.length ≤ 3 then simple position span
    else
      match hg : signedGroup? span with
      | some (s, group) => do
        let e ← ofSpan (position + 1) group
        return .unary s e
      | none =>
        match hm : Split.main? span with
        | none => .error (.noOperator span position)
        | some split => do
          let l ← ofSpan position split.left
          let r ← ofSpan (position + split.left.length + 1) split.right
          return .binary split.operator l r
termination_by span.length
decreasing_by
  · exact Token.length_lt_of_interior? hi
  · exact length_lt_of_signedGroup? hg
  all_goals
    have := congrArg List.length (Split.span_of_main? hm)
    simp only [Split.span, List.length_append, List.length_cons] at this
    omega

def ofTokens (tokens : List Token) : Except BuildFault Expr := ofSpan 0 tokens

/-- A span without the pairs of parentheses around it, and the position where it begins. -/
def stripped (position : Nat) (span : List Token) : Nat × List Token :=
  match hi : Token.interior? span with
  | some inner => stripped (position + 1) inner
  | none => (position, span)
termination_by span.length
decreasing_by exact Token.length_lt_of_interior? hi

/-- The tree of a span where only so many calls may be open at once. With no room for one more there
is neither a tree nor a fault. -/
def ofSpanWithin : Nat → Nat → List Token → Except (Option BuildFault) Expr
  | 0, _, _ => .error none
  | levels + 1, position, span =>
    let (position, span) := stripped position span
    if span.length ≤ 3 then (simple position span).mapError some
    else
      match signedGroup? span with
      | some (s, group) => do
        let e ← ofSpanWithin levels (position + 1) group
        return .unary s e
      | none =>
        match Split.main? span with
        | none => .error (some (.noOperator span position))
        | some split => do
          let l ← ofSpanWithin levels position split.left
          let r ← ofSpanWithin levels (position + split.left.length + 1) split.right
          return .binary split.operator l r

end Expr

end Calculator
