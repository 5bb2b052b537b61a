import Calculator.Proofs.Expr.Faults
import Calculator.Proofs.Token.Nesting
import Mathlib.Order.Bounds.Basic

/-!
What the search from the right finds, told by the nesting from the left. On a balanced span the two
depths agree at every place, so the search takes the last joint of the span, and its last scaling if
it has no joint.
-/

namespace Calculator

open Token (IsBalanced IsPair depth)

namespace Split

variable {tokens before after : List Token} {t : Token} {lo hi i n : Nat}

/-- That a sign of the span from `lo` to `hi` joins two operands of it. -/
structure IsJoint (tokens : List Token) (lo hi i : Nat) : Prop where
  after : lo < i
  before : i < hi
  sign : ∃ s, tokens[i]? = some (.sign s)
  operand : (∃ n, tokens[i - 1]? = some (.number n)) ∨ tokens[i - 1]? = some .closing
  outside : depth (tokens.extract lo i) = 0

/-- That an operator of the span from `lo` to `hi` that is no sign stands outside its parentheses.
-/
structure IsScaling (tokens : List Token) (lo hi i : Nat) : Prop where
  after : lo ≤ i
  before : i < hi
  scale : ∃ s, tokens[i]? = some (.scale s)
  outside : depth (tokens.extract lo i) = 0

/-- The last number below a bound that has a property. -/
def lastBelow (p : Nat → Prop) [DecidablePred p] : Nat → Option Nat
  | 0 => none
  | n + 1 => if p n then some n else lastBelow p n

theorem lastBelow_eq_none_iff (p : Nat → Prop) [DecidablePred p] (n : Nat) :
    lastBelow p n = none ↔ ∀ i, i < n → ¬ p i := by
  induction n with
  | zero => simp [lastBelow]
  | succ n ih =>
      rw [lastBelow, Nat.forall_lt_succ_right]
      split
      next h => simp [h]
      next h => simp [h, ih]

theorem lastBelow_eq_some_iff (p : Nat → Prop) [DecidablePred p] (n i : Nat) :
    lastBelow p n = some i ↔ IsGreatest {j | j < n ∧ p j} i := by
  induction n with
  | zero => simp [lastBelow, IsGreatest]
  | succ n ih =>
      rw [lastBelow]
      split
      next h =>
        have hlast : IsGreatest {j | j < n + 1 ∧ p j} n :=
          ⟨⟨Nat.lt_succ_self n, h⟩, fun j hj => Nat.le_of_lt_succ hj.1⟩
        rw [Option.some.injEq]
        constructor
        · rintro rfl
          exact hlast
        · exact hlast.unique
      next h =>
        have hsame : {j | j < n + 1 ∧ p j} = {j | j < n ∧ p j} := by
          ext j
          simp only [Set.mem_ofPred_eq, Nat.lt_succ_iff_lt_or_eq]
          constructor
          · rintro ⟨hlt | rfl, hj⟩
            · exact ⟨hlt, hj⟩
            · exact absurd hj h
          · rintro ⟨hlt, hj⟩
            exact ⟨.inl hlt, hj⟩
        rw [ih, hsame]

section LastBelow

variable {p : Nat → Prop} [DecidablePred p]

theorem lastBelow_cons_of_pos (h : p (lo + before.length)) :
    lastBelow p (lo + (t :: before).length) = some (lo + before.length) :=
  if_pos h

theorem lastBelow_cons_of_neg (h : ¬ p (lo + before.length)) :
    lastBelow p (lo + (t :: before).length) = lastBelow p (lo + before.length) :=
  if_neg h

end LastBelow

theorem extract_of_prefix (h : before.reverse <+: tokens.drop lo) :
    tokens.extract lo (lo + before.length) = before.reverse := by
  simpa using (List.prefix_iff_eq_take.mp h).symm

theorem getElem?_of_prefix (h : (t :: before).reverse <+: tokens.drop lo) :
    tokens[lo + before.length]? = some t := by
  obtain ⟨behind, hbehind⟩ := h
  rw [← List.getElem?_drop, ← hbehind]
  simp

theorem prefix_of_cons (h : (t :: before).reverse <+: tokens.drop lo) :
    before.reverse <+: tokens.drop lo := by
  rw [List.reverse_cons] at h
  exact (List.prefix_append _ _).trans h

/-- The search knows a joint from what it has not passed over yet. -/
theorem isJoint_iff (h : (t :: before).reverse <+: tokens.drop lo)
    (hhi : lo + before.length < hi) :
    IsJoint tokens lo hi (lo + before.length) ↔
      (∃ s, t = .sign s) ∧ depth before.reverse = 0 ∧
        before.head?.any Token.endsOperand = true := by
  have hat := getElem?_of_prefix h
  have hfront := extract_of_prefix (prefix_of_cons h)
  cases before with
  | nil =>
      simp only [List.head?_nil, Option.any_none, Bool.false_eq_true, and_false, iff_false]
      intro hjoint
      exact Nat.lt_irrefl lo hjoint.after
  | cons u earlier =>
      have hprevious : tokens[lo + (u :: earlier).length - 1]? = some u :=
        getElem?_of_prefix (prefix_of_cons h)
      have hends : u.endsOperand = true ↔ (∃ n, u = .number n) ∨ u = .closing := by
        cases u <;> simp [Token.endsOperand]
      rw [List.head?_cons, Option.any_some, hends]
      constructor
      · rintro ⟨-, -, hsign, hoperand, houtside⟩
        rw [hat] at hsign
        rw [hprevious] at hoperand
        rw [hfront] at houtside
        exact ⟨by simpa using hsign, houtside, by simpa using hoperand⟩
      · rintro ⟨⟨s, rfl⟩, houtside, hoperand⟩
        refine ⟨by simp, hhi, ⟨s, hat⟩, ?_, hfront ▸ houtside⟩
        rw [hprevious]
        simpa using hoperand

theorem isScaling_iff (h : (t :: before).reverse <+: tokens.drop lo)
    (hhi : lo + before.length < hi) :
    IsScaling tokens lo hi (lo + before.length) ↔
      (∃ s, t = .scale s) ∧ depth before.reverse = 0 := by
  have hat := getElem?_of_prefix h
  have hfront := extract_of_prefix (prefix_of_cons h)
  constructor
  · rintro ⟨-, -, hscale, houtside⟩
    rw [hat] at hscale
    rw [hfront] at houtside
    exact ⟨by simpa using hscale, houtside⟩
  · rintro ⟨⟨s, rfl⟩, houtside⟩
    exact ⟨Nat.le_add_right _ _, hhi, ⟨s, hat⟩, hfront ▸ houtside⟩

open Classical in
/-- The search below a place: the depth from the right is that of what stands before the place,
since nothing is open at the end. -/
theorem map_search (d : Int) (found : Option Split) (before after : List Token)
    (hspan : before.reverse <+: tokens.drop lo) (hhi : lo + before.length ≤ hi)
    (hdepth : d = depth before.reverse) :
    (search d found before after).map (fun s => lo + s.left.length) =
      (lastBelow (IsJoint tokens lo hi) (lo + before.length)).or
        ((found.map fun s => lo + s.left.length).or
          (lastBelow (IsScaling tokens lo hi) (lo + before.length))) := by
  fun_induction search d found before after with
  | case1 d found after =>
      have hjoint := (lastBelow_eq_none_iff (IsJoint tokens lo hi) lo).mpr
        fun i hlt h => Nat.lt_asymm hlt h.after
      have hscaling := (lastBelow_eq_none_iff (IsScaling tokens lo hi) lo).mpr
        fun i hlt h => Nat.not_le_of_lt hlt h.after
      simp [hjoint, hscaling]
  | case2 d found s before after h =>
      have hjoint : IsJoint tokens lo hi (lo + before.length) := by
        rw [isJoint_iff hspan hhi]
        simp_all [Token.rise]
      rw [lastBelow_cons_of_pos hjoint]
      simp
  | case3 d found s before after h ih =>
      have hjoint : ¬ IsJoint tokens lo hi (lo + before.length) := by
        rw [isJoint_iff hspan hhi]
        simp_all [Token.rise]
      have hscaling : ¬ IsScaling tokens lo hi (lo + before.length) := by
        simp [isScaling_iff hspan hhi]
      rw [lastBelow_cons_of_neg hjoint, lastBelow_cons_of_neg hscaling]
      exact ih (prefix_of_cons hspan) (Nat.le_of_lt hhi) (by simpa [Token.rise] using hdepth)
  | case4 d found s before after found' ih =>
      have hjoint : ¬ IsJoint tokens lo hi (lo + before.length) := by
        simp [isJoint_iff hspan hhi]
      have hscaling : IsScaling tokens lo hi (lo + before.length) ↔ d = 0 := by
        rw [isScaling_iff hspan hhi]
        simp_all [Token.rise]
      rw [lastBelow_cons_of_neg hjoint,
        ih (prefix_of_cons hspan) (Nat.le_of_lt hhi) (by simpa [Token.rise] using hdepth)]
      by_cases hd : d = 0
      · -- It is kept unless one behind it is in hand.
        rw [lastBelow_cons_of_pos (hscaling.mpr hd)]
        cases found with
        | none => simp [found', hd]
        | some f => simp [found', hd]
      · rw [lastBelow_cons_of_neg (mt hscaling.mp hd)]
        simp [found', hd]
  | case5 d found t before after hsign hscale ih =>
      have hjoint : ¬ IsJoint tokens lo hi (lo + before.length) := by
        rw [isJoint_iff hspan hhi]
        rintro ⟨⟨s, rfl⟩, -⟩
        exact hsign s rfl
      have hscaling : ¬ IsScaling tokens lo hi (lo + before.length) := by
        rw [isScaling_iff hspan hhi]
        rintro ⟨⟨s, rfl⟩, -⟩
        exact hscale s rfl
      rw [lastBelow_cons_of_neg hjoint, lastBelow_cons_of_neg hscaling]
      apply ih (prefix_of_cons hspan) (Nat.le_of_lt hhi)
      rw [hdepth, List.reverse_cons, Token.depth_append, Token.depth_cons, Token.depth_nil]
      omega

open Classical in
theorem map_main? (hlo : lo ≤ hi) (hhi : hi ≤ tokens.length)
    (hclosed : depth (tokens.extract lo hi) = 0) :
    (main? (tokens.extract lo hi)).map (fun s => lo + s.left.length) =
      (lastBelow (IsJoint tokens lo hi) hi).or (lastBelow (IsScaling tokens lo hi) hi) := by
  have hlength : lo + (tokens.extract lo hi).reverse.length = hi := by
    rw [List.length_reverse, List.extract_eq_take_drop, List.length_take, List.length_drop]
    omega
  have hspan : (tokens.extract lo hi).reverse.reverse <+: tokens.drop lo := by
    rw [List.reverse_reverse]
    exact List.take_prefix _ _
  have h := map_search 0 none _ [] hspan hlength.le (by simpa using hclosed.symm)
  rwa [hlength] at h

theorem main?_index_iff (hlo : lo ≤ hi) (hhi : hi ≤ tokens.length)
    (hclosed : depth (tokens.extract lo hi) = 0) (i : Nat) :
    (main? (tokens.extract lo hi)).map (fun s => lo + s.left.length) = some i ↔
      IsGreatest {j | IsJoint tokens lo hi j} i ∨
        (∀ j, ¬ IsJoint tokens lo hi j) ∧ IsGreatest {j | IsScaling tokens lo hi j} i := by
  classical
  have hjoints : {j | j < hi ∧ IsJoint tokens lo hi j} = {j | IsJoint tokens lo hi j} :=
    Set.ext fun j => and_iff_right_of_imp IsJoint.before
  have hscalings : {j | j < hi ∧ IsScaling tokens lo hi j} = {j | IsScaling tokens lo hi j} :=
    Set.ext fun j => and_iff_right_of_imp IsScaling.before
  have hnone : (∀ j, j < hi → ¬ IsJoint tokens lo hi j) ↔ ∀ j, ¬ IsJoint tokens lo hi j :=
    forall_congr' fun j => ⟨fun h hj => h hj.before hj, fun h _ => h⟩
  rw [map_main? hlo hhi hclosed, Option.or_eq_some_iff, lastBelow_eq_some_iff,
    lastBelow_eq_some_iff, lastBelow_eq_none_iff, hjoints, hscalings, hnone]

theorem main?_eq_none_iff (hlo : lo ≤ hi) (hhi : hi ≤ tokens.length)
    (hclosed : depth (tokens.extract lo hi) = 0) :
    main? (tokens.extract lo hi) = none ↔
      ∀ i, ¬ IsJoint tokens lo hi i ∧ ¬ IsScaling tokens lo hi i := by
  classical
  rw [← Option.map_eq_none_iff, map_main? hlo hhi hclosed, Option.or_eq_none_iff,
    lastBelow_eq_none_iff, lastBelow_eq_none_iff]
  constructor
  · rintro ⟨hjoint, hscaling⟩ i
    exact ⟨fun h => hjoint i h.before h, fun h => hscaling i h.before h⟩
  · intro h
    exact ⟨fun i _ => (h i).1, fun i _ => (h i).2⟩

end Split

namespace Expr

variable {span : List Token} {position : Nat}

theorem Blames.length_le {list : List Token} {place : Nat}
    (h : Blames position list (.noOperator span place)) : span.length ≤ list.length := by
  obtain ⟨before, shown, after, rfl, -, hfault⟩ := h
  rw [BuildFault.ofSpan] at hfault
  split at hfault
  · cases hfault
  · cases hfault
    rw [List.length_append, List.length_append]
    omega

theorem ofSpan_ne_noOperator_of_main? {split : Split} (hinner : Token.interior? span = none)
    (hlong : ¬ span.length ≤ 3) (hsigned : signedGroup? span = none)
    (hmain : Split.main? span = some split) (place : Nat) :
    ofSpan position span ≠ .error (.noOperator span place) := by
  have hlength := congrArg List.length (Split.span_of_main? hmain)
  simp only [Split.span, List.length_append, List.length_cons] at hlength
  fun_cases ofSpan position span with
  | case1 _ hsome => simp [hinner] at hsome
  | case2 _ hshort => exact absurd hshort hlong
  | case3 _ _ _ _ hsome => simp [hsigned] at hsome
  | case4 _ _ _ hnone => simp [hmain] at hnone
  | case5 _ _ _ split hsome =>
      obtain rfl := Option.some.inj (hmain.symm.trans hsome)
      intro h
      rcases bind_eq_error_iff.mp h with hleft | ⟨l, -, hrest⟩
      · have := (blames_of_ofSpan hleft).length_le
        omega
      · rcases bind_eq_error_iff.mp hrest with hright | ⟨r, -, hnone⟩
        · have := (blames_of_ofSpan hright).length_le
          omega
        · cases hnone

theorem ofSpan_eq_noOperator_iff (hinner : Token.interior? span = none)
    (hlong : ¬ span.length ≤ 3) (hsigned : signedGroup? span = none) :
    ofSpan position span = .error (.noOperator span position) ↔ Split.main? span = none := by
  constructor
  · intro h
    cases hmain : Split.main? span with
    | none => rfl
    | some split =>
        exact absurd h (ofSpan_ne_noOperator_of_main? hinner hlong hsigned hmain position)
  · intro hmain
    have hstuck := isStuck_of_main? hinner hlong hsigned hmain position
    rwa [BuildFault.ofSpan, if_neg hlong] at hstuck

/-- On a span whose parentheses are balanced the two scans tell what nesting from the left says. The
span is a group if and only if its first parenthesis belongs to its last. It is split at its last
joint, at its last scaling if it has no joint, and an operator is missing if it has neither. -/
theorem scans_follow_nesting (tokens : List Token) (lo hi : Nat) (hlo : lo ≤ hi)
    (hhi : hi ≤ tokens.length) (hbalanced : IsBalanced (tokens.extract lo hi)) :
    ((Token.interior? (tokens.extract lo hi)).isSome = true ↔
        ∀ j, IsPair tokens lo j ↔ j = hi - 1) ∧
      (∀ split, Split.main? (tokens.extract lo hi) = some split →
        split.span = tokens.extract lo hi) ∧
      (∀ i,
        (Split.main? (tokens.extract lo hi)).map (fun split => lo + split.left.length) = some i ↔
        IsGreatest {j | Split.IsJoint tokens lo hi j} i ∨
          (∀ j, ¬ Split.IsJoint tokens lo hi j) ∧
            IsGreatest {j | Split.IsScaling tokens lo hi j} i) ∧
      (Split.main? (tokens.extract lo hi) = none ↔
        ∀ i, ¬ Split.IsJoint tokens lo hi i ∧ ¬ Split.IsScaling tokens lo hi i) ∧
      (Token.interior? (tokens.extract lo hi) = none → 3 < hi - lo →
        signedGroup? (tokens.extract lo hi) = none →
          (ofSpan lo (tokens.extract lo hi) = .error (.noOperator (tokens.extract lo hi) lo) ↔
            ∀ i, ¬ Split.IsJoint tokens lo hi i ∧ ¬ Split.IsScaling tokens lo hi i)) := by
  have hnone := Split.main?_eq_none_iff hlo hhi hbalanced.closed
  refine ⟨?_, fun split => Split.span_of_main?, Split.main?_index_iff hlo hhi hbalanced.closed,
    hnone, ?_⟩
  · rw [Token.interior?_isSome_iff_isPair hhi hbalanced]
    constructor
    · intro hpair j
      constructor
      · exact fun hj => hj.eq hpair
      · rintro rfl
        exact hpair
    · intro h
      exact (h _).mpr rfl
  · intro hinner hlength hsigned
    have hlong : ¬ (tokens.extract lo hi).length ≤ 3 := by
      rw [List.extract_eq_take_drop, List.length_take, List.length_drop]
      omega
    rw [ofSpan_eq_noOperator_iff hinner hlong hsigned, hnone]

/-- In `(1 - (2 + 3) * -4)` the first sign is the last joint of what the outer parentheses
enclose. -/
theorem minus_before_group_is_last_joint :
    let tokens := ["(", "1", "-", "(", "2", "+", "3", ")", "*", "-", "4", ")"].map Token.ofText
    let span := tokens.extract 1 11
    IsBalanced span ∧ IsGreatest {j | Split.IsJoint tokens 1 11 j} 2 ∧
      ofSpan 1 span ≠ .error (.noOperator span 1) := by
  intro tokens span
  have hbalanced : IsBalanced span := by decide +kernel
  obtain ⟨-, -, hmain, -, hfault⟩ :=
    scans_follow_nesting tokens 1 11 (by decide) (by decide) hbalanced
  have hjoint : IsGreatest {j | Split.IsJoint tokens 1 11 j} 2 := by
    rcases (hmain 2).mp (by decide +kernel) with hjoint | ⟨-, ⟨-, -, ⟨s, hscale⟩, -⟩, -⟩
    · exact hjoint
    · cases hscale
  have hmissing := hfault (by decide +kernel) (by decide) (by decide +kernel)
  exact ⟨hbalanced, hjoint, fun h => (hmissing.mp h 2).1 hjoint.1⟩

end Expr

end Calculator
