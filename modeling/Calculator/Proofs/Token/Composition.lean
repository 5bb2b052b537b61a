import Calculator.Proofs.Token.Recognition

namespace Calculator

/-- The issue at a place that lies further on by so many characters. -/
def Issue.behind (count : Nat) (issue : Issue) : Issue :=
  { issue with position := issue.position.map (· + count) }

namespace Token

/-- That a text is read as two texts one after the other, the second `offset` characters further
on. -/
structure ReadsInTurn (whole u v : List Char) (offset : Nat) : Prop where
  tokens : ∀ tokens, ofChars whole = .ok tokens ↔
    ∃ left right, ofChars u = .ok left ∧ ofChars v = .ok right ∧ left ++ right = tokens
  first : ∀ fault, ofChars u = .error fault → ofChars whole = .error fault
  second : ∀ left fault, ofChars u = .ok left → ofChars v = .error fault →
    ∃ moved, ofChars whole = .error moved ∧ moved.issue = fault.issue.behind offset

/-- That one text comes from another by putting in spaces and taking out spaces, but not between two
characters of numerals. -/
inductive Respaced (text : List Char) : List Char → Prop where
  | refl : Respaced text text
  | insert {u v : List Char} (before : Respaced text (u ++ v)) (cut : CutsNoNumeral u v) :
      Respaced text (u ++ ' ' :: v)
  | delete {u v : List Char} (before : Respaced text (u ++ ' ' :: v)) (cut : CutsNoNumeral u v) :
      Respaced text (u ++ v)

variable {u v text other : List Char} {fault : LexicalFault}

theorem ofChars_append (hu : ∀ c ∈ u, c ∈ alphabet) (hv : ∀ c ∈ v, c ∈ alphabet)
    (cut : CutsNoNumeral u v) :
    ofChars (u ++ v) = do
      let left ← ofChars u
      let right ← (ofChars v).mapError (.behind u.length)
      return left ++ right := by
  rw [ofChars_of_known (List.forall_mem_append.mpr ⟨hu, hv⟩), scan_append 0 cut, scan_add,
    ofChars_of_known hu, ofChars_of_known hv]

theorem space_known : ∀ c ∈ [' '], c ∈ alphabet := List.forall_mem_singleton.mpr (by decide)

theorem ofChars_space : ofChars [' '] = .ok [] := by
  rw [ofChars_of_known space_known, scan, scan]
  rfl

theorem ofChars_append_of_space (hu : ∀ c ∈ u, c ∈ alphabet) :
    ofChars (u ++ [' ']) = ofChars u := by
  rw [ofChars_append hu space_known (.inr rfl), ofChars_space]
  cases ofChars u with
  | error fault => rfl
  | ok left => exact congrArg Except.ok (List.append_nil left)

theorem ofChars_append_space (hu : ∀ c ∈ u, c ∈ alphabet) (hv : ∀ c ∈ v, c ∈ alphabet) :
    ofChars (u ++ ' ' :: v) = do
      let left ← ofChars u
      let right ← (ofChars v).mapError (.behind (u.length + 1))
      return left ++ right := by
  have hspaced : ∀ c ∈ u ++ [' '], c ∈ alphabet :=
    List.forall_mem_append.mpr ⟨hu, space_known⟩
  have hcut : CutsNoNumeral (u ++ [' ']) v := by
    left
    rw [List.getLast?_concat]
    rfl
  have happend := ofChars_append hspaced hv hcut
  rwa [List.append_assoc, ofChars_append_of_space hu, List.length_append] at happend

/-- No message about known characters names a position. -/
theorem issue_behind (known : ∀ c ∈ text, c ∈ alphabet) (h : ofChars text = .error fault)
    (count : Nat) : (fault.behind count).issue = fault.issue.behind count := by
  cases fault with
  | foreignCharacter c position =>
      obtain ⟨code, place, d, hfirst, rfl, -⟩ := exists_firstFault_of_ofChars h
      cases hfirst with
      | @unknown front rest d split _ unknown =>
          rw [split] at known
          exact absurd (known d (List.mem_append_right _ List.mem_cons_self)) unknown
  | lonePoint position => rfl
  | secondPoint numeral position => rfl

theorem readsInTurn_of_eq {whole : List Char} {offset : Nat} (hv : ∀ c ∈ v, c ∈ alphabet)
    (h : ofChars whole = do
      let left ← ofChars u
      let right ← (ofChars v).mapError (.behind offset)
      return left ++ right) : ReadsInTurn whole u v offset where
  tokens := by
    intro tokens
    rw [h]
    constructor
    · intro hwhole
      obtain ⟨left, hleft, hrest⟩ := exists_of_bind_eq_ok hwhole
      obtain ⟨right, hright, htokens⟩ := exists_of_bind_eq_ok hrest
      exact ⟨left, right, hleft, mapError_eq_ok_iff.mp hright, Except.ok.inj htokens⟩
    · rintro ⟨left, right, hleft, hright, rfl⟩
      rw [hleft, hright]
      rfl
  first := by
    intro fault hfault
    rw [h, hfault]
    rfl
  second := by
    intro left fault hleft hfault
    refine ⟨fault.behind offset, ?_, issue_behind hv hfault offset⟩
    rw [h, hleft, hfault]
    rfl

theorem Respaced.ofChars?_eq (h : Respaced text other) : ofChars? other = ofChars? text := by
  have hspace : ∀ {u v : List Char}, CutsNoNumeral u v →
      ofChars? (u ++ ' ' :: v) = ofChars? (u ++ v) :=
    fun {u v} cut => (ofChars?_append_space u v).trans (ofChars?_append cut).symm
  induction h with
  | refl => rfl
  | insert _ cut ih => exact (hspace cut).trans ih
  | delete _ cut ih => exact (hspace cut).symm.trans ih

/-- Texts of known characters are read one after the other if a space is between them, or if no
numeral goes across the place where they meet. Hence spaces may be put in and taken out at all other
places, and the tokens stay the same. -/
theorem texts_read_in_turn (u v : List Char) (hu : ∀ c ∈ u, c ∈ alphabet)
    (hv : ∀ c ∈ v, c ∈ alphabet) :
    ReadsInTurn (u ++ ' ' :: v) u v (u.length + 1) ∧
      (CutsNoNumeral u v → ReadsInTurn (u ++ v) u v u.length) ∧
      ∀ text other, Respaced text other →
        ∀ tokens, ofChars text = .ok tokens ↔ ofChars other = .ok tokens := by
  refine ⟨readsInTurn_of_eq hv (ofChars_append_space hu hv),
    fun cut => readsInTurn_of_eq hv (ofChars_append hu hv cut), fun text other h tokens => ?_⟩
  rw [← ofChars?_eq_some_iff, ← ofChars?_eq_some_iff, h.ofChars?_eq]

theorem second_point_moves_along :
    (∀ c ∈ "2.".toList, c ∈ alphabet) ∧ (∀ c ∈ "(3.5.".toList, c ∈ alphabet) ∧
      (∃ fault, ofChars "2. (3.5.".toList = .error fault ∧ fault.issue.position = some 7) ∧
      ∃ fault, ofChars "2.(3.5.".toList = .error fault ∧ fault.issue.position = some 6 := by
  have hu : ∀ c ∈ "2.".toList, c ∈ alphabet := List.all_iff_forall_prop.mp (by decide)
  have hv : ∀ c ∈ "(3.5.".toList, c ∈ alphabet := List.all_iff_forall_prop.mp (by decide)
  obtain ⟨hspaced, hjoined, -⟩ := texts_read_in_turn "2.".toList "(3.5.".toList hu hv
  have hleft : ofChars "2.".toList = .ok [.number ⟨2, [], [0]⟩] := by decide +kernel
  have hright : ofChars "(3.5.".toList = .error (.secondPoint "3.5." 4) := by decide +kernel
  obtain ⟨spaced, hspacedFault, hspacedIssue⟩ := hspaced.second _ _ hleft hright
  obtain ⟨joined, hjoinedFault, hjoinedIssue⟩ := (hjoined (.inr rfl)).second _ _ hleft hright
  exact ⟨hu, hv, ⟨spaced, hspacedFault, congrArg Issue.position hspacedIssue⟩,
    joined, hjoinedFault, congrArg Issue.position hjoinedIssue⟩

end Token

end Calculator
