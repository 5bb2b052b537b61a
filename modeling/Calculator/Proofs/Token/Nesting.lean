import Calculator.Proofs.Grammar.Shape

namespace Calculator.Token

variable {tokens span inner : List Token} {t : Token} {lo hi i j k : Nat}

/-- How many parentheses are open behind a list. -/
def depth (tokens : List Token) : Int := tokens.count .opening - tokens.count .closing

@[simp] theorem depth_nil : depth [] = 0 := rfl

@[simp] theorem depth_append (left right : List Token) :
    depth (left ++ right) = depth left + depth right := by
  simp only [depth, List.count_append]
  omega

@[simp] theorem depth_cons (t : Token) (rest : List Token) :
    depth (t :: rest) = depth rest - t.rise := by
  cases t <;> simp [depth, rise] <;> omega

structure IsBalanced (span : List Token) : Prop where
  opened : ∀ front, front <+: span → 0 ≤ depth front
  closed : depth span = 0

theorem forall_prefix_cons_iff (d : Int) (t : Token) (rest : List Token) :
    (∀ front, front <+: t :: rest → 0 ≤ d + depth front) ↔
      0 ≤ d ∧ ∀ front, front <+: rest → 0 ≤ d - t.rise + depth front := by
  constructor
  · intro h
    refine ⟨by simpa using h [] List.nil_prefix, fun front hfront => ?_⟩
    have := h (t :: front) (by simpa using hfront)
    rw [depth_cons] at this
    omega
  · rintro ⟨hd, h⟩ front hfront
    rcases List.prefix_cons_iff.mp hfront with rfl | ⟨more, rfl, hmore⟩
    · simpa using hd
    · have := h more hmore
      rw [depth_cons]
      omega

theorem staysOpen_iff (opened : Nat) (span : List Token) :
    staysOpen opened span = true ↔ ∀ front, front <+: span → 0 ≤ opened + depth front := by
  fun_induction staysOpen opened span with
  | case1 opened => simp
  | case2 opened rest ih =>
      rw [ih, forall_prefix_cons_iff, and_iff_right (by omega)]
      simp [rise]
  | case3 rest =>
      simp only [Bool.false_eq_true, false_iff]
      intro h
      have hclosing := h [.closing] (by simp)
      simp [rise] at hclosing
  | case4 rest opened ih =>
      rw [ih, forall_prefix_cons_iff, and_iff_right (by omega)]
      simp [rise]
  | case5 opened t rest hopening hclosing ih =>
      have hrise : t.rise = 0 := by
        cases t with
        | opening => exact absurd rfl hopening
        | closing => exact absurd rfl hclosing
        | number _ | sign _ | scale _ | other _ => rfl
      rw [ih, forall_prefix_cons_iff, and_iff_right (by omega), hrise, Int.sub_zero]

theorem isBalanced_iff (span : List Token) :
    IsBalanced span ↔ staysOpen 0 span = true ∧ depth span = 0 := by
  rw [staysOpen_iff]
  constructor
  · rintro ⟨hopened, hclosed⟩
    exact ⟨by simpa using hopened, hclosed⟩
  · rintro ⟨hopened, hclosed⟩
    exact ⟨by simpa using hopened, hclosed⟩

instance (span : List Token) : Decidable (IsBalanced span) :=
  decidable_of_iff _ (isBalanced_iff span).symm

theorem interior?_isSome_iff (h : depth span = 0) :
    (interior? span).isSome = true ↔
      ∃ inner, span = .opening :: inner ++ [.closing] ∧ IsBalanced inner := by
  simp only [Option.isSome_iff_exists, interior?_eq_some_iff, isBalanced_iff]
  constructor
  · rintro ⟨inner, rfl, hopen⟩
    simp only [List.cons_append, depth_cons, depth_append, depth_nil, rise] at h
    exact ⟨inner, rfl, hopen, by omega⟩
  · rintro ⟨inner, rfl, hopen, -⟩
    exact ⟨inner, rfl, hopen⟩

theorem getElem?_extract (h : lo + k < hi) :
    (tokens.extract lo hi)[k]? = tokens[lo + k]? := by
  rw [List.extract_eq_take_drop, List.getElem?_take_of_lt (by omega), List.getElem?_drop]

theorem extract_eq_cons (h : tokens[lo]? = some t) (hlt : lo < hi) :
    tokens.extract lo hi = t :: tokens.extract (lo + 1) hi := by
  obtain ⟨hlo, rfl⟩ := List.getElem?_eq_some_iff.mp h
  obtain ⟨n, rfl⟩ := Nat.exists_eq_add_of_lt hlt
  have hleft : lo + n + 1 - lo = n + 1 := by omega
  have hrest : lo + n + 1 - (lo + 1) = n := by omega
  rw [List.extract_eq_take_drop, List.drop_eq_getElem_cons hlo, hleft, List.take_succ_cons,
    List.extract_eq_take_drop, hrest]

theorem extract_add_one (h : tokens[hi]? = some t) (hle : lo ≤ hi) :
    tokens.extract lo (hi + 1) = tokens.extract lo hi ++ [t] := by
  obtain ⟨n, rfl⟩ := Nat.exists_eq_add_of_le hle
  simp [Nat.add_assoc, List.take_add_one, h]

theorem extract_group (hopening : tokens[i]? = some .opening)
    (hclosing : tokens[j]? = some .closing) (hlt : i < j) :
    tokens.extract i (j + 1) = .opening :: tokens.extract (i + 1) j ++ [.closing] := by
  rw [extract_eq_cons hopening (Nat.lt_succ_of_lt hlt), extract_add_one hclosing hlt]
  rfl

/-- That two parentheses belong together. -/
structure IsPair (tokens : List Token) (i j : Nat) : Prop where
  lt : i < j
  opening : tokens[i]? = some .opening
  closing : tokens[j]? = some .closing
  balanced : IsBalanced (tokens.extract (i + 1) j)

theorem IsPair.le (hj : IsPair tokens i j) (hk : IsPair tokens i k) : k ≤ j := by
  apply Nat.le_of_not_lt
  intro hlt
  -- The first of the two closes more than is opened behind their opening parenthesis.
  have hfront : tokens.extract (i + 1) (j + 1) <+: tokens.extract (i + 1) k := by
    apply List.take_prefix_take_left
    omega
  have hopened := hk.balanced.opened _ hfront
  rw [extract_add_one hj.closing hj.lt, depth_append, hj.balanced.closed] at hopened
  simp [rise] at hopened

theorem IsPair.eq (hj : IsPair tokens i j) (hk : IsPair tokens i k) : j = k :=
  Nat.le_antisymm (hk.le hj) (hj.le hk)

theorem isPair_of_extract_eq (hhi : hi ≤ tokens.length)
    (hgroup : tokens.extract lo hi = .opening :: inner ++ [.closing]) (h : IsBalanced inner) :
    IsPair tokens lo (hi - 1) := by
  have hlength := congrArg List.length hgroup
  simp only [List.extract_eq_take_drop, List.length_take, List.length_drop, List.length_append,
    List.length_cons, List.length_nil] at hlength
  obtain ⟨j, rfl⟩ : ∃ j, hi = j + 1 := Nat.exists_eq_add_of_le' (by omega)
  have hlt : lo < j := by omega
  have hfirst : tokens[lo]? = some .opening := by
    rw [← Nat.add_zero lo, ← getElem?_extract (Nat.lt_succ_of_lt hlt), hgroup]
    rfl
  have hlast : tokens[j]? = some .closing := by
    obtain rfl : j = lo + (inner.length + 1) := by omega
    rw [← getElem?_extract (Nat.lt_succ_self _), hgroup]
    simp
  rw [extract_group hfirst hlast hlt] at hgroup
  refine ⟨hlt, hfirst, hlast, ?_⟩
  obtain rfl : tokens.extract (lo + 1) j = inner := by simpa using hgroup
  exact h

/-- A span is a group if and only if its first parenthesis belongs to its last. -/
theorem interior?_isSome_iff_isPair (hhi : hi ≤ tokens.length)
    (h : IsBalanced (tokens.extract lo hi)) :
    (interior? (tokens.extract lo hi)).isSome = true ↔ IsPair tokens lo (hi - 1) := by
  rw [interior?_isSome_iff h.closed]
  constructor
  · rintro ⟨inner, hgroup, hinner⟩
    exact isPair_of_extract_eq hhi hgroup hinner
  · intro hpair
    have hlt := hpair.lt
    obtain ⟨j, rfl⟩ : ∃ j, hi = j + 1 := Nat.exists_eq_add_of_le' (by omega)
    exact ⟨_, extract_group hpair.opening hpair.closing hpair.lt, hpair.balanced⟩

end Calculator.Token
