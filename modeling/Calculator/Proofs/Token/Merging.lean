import Calculator.Token.SignRun

namespace Calculator.Token

/-- Puts a sign before merged tokens. -/
def pushSign (s : Sign) : List Token → List Token
  | .sign t :: more => .sign (s.combine t) :: more
  | more => .sign s :: more

theorem mergeSigns_sign_cons (s : Sign) (tokens : List Token) :
    mergeSigns (.sign s :: tokens) = pushSign s (mergeSigns tokens) := rfl

theorem mergeSigns_cons {t : Token} (tokens : List Token) (h : t.isSign = false) :
    mergeSigns (t :: tokens) = t :: mergeSigns tokens := by
  cases t with
  | sign s => cases h
  | number _ | scale _ | opening | closing | other _ => rfl

theorem forall_mem_pushSign {admitted : Token → Prop} (hsign : ∀ s, admitted (.sign s)) (s : Sign)
    {tokens : List Token} (h : ∀ t ∈ tokens, admitted t) : ∀ t ∈ pushSign s tokens, admitted t := by
  match tokens with
  | .sign t :: more =>
      intro u hu
      rcases List.mem_cons.mp hu with rfl | hmore
      · exact hsign _
      · exact h u (List.mem_cons_of_mem _ hmore)
  | [] | .number _ :: _ | .scale _ :: _ | .opening :: _ | .closing :: _ | .other _ :: _ =>
      exact List.forall_mem_cons.mpr ⟨hsign s, h⟩

def leadsWithSign (tokens : List Token) : Bool := tokens.head?.any isSign

theorem leadsWithSign_append {left : List Token} (right : List Token) (h : left ≠ []) :
    leadsWithSign (left ++ right) = leadsWithSign left := by
  match left, h with
  | _ :: _, _ => rfl

theorem pushSign_of_leadsWithSign {tokens : List Token} (s : Sign)
    (h : leadsWithSign tokens = false) : pushSign s tokens = .sign s :: tokens := by
  match tokens with
  | .sign _ :: _ => cases h
  | [] | .number _ :: _ | .scale _ :: _ | .opening :: _ | .closing :: _ | .other _ :: _ => rfl

theorem leadsWithSign_pushSign (s : Sign) (tokens : List Token) :
    leadsWithSign (pushSign s tokens) = true := by
  match tokens with
  | [] | .number _ :: _ | .sign _ :: _ | .scale _ :: _ | .opening :: _ | .closing :: _
  | .other _ :: _ => rfl

theorem leadsWithSign_mergeSigns (tokens : List Token) :
    leadsWithSign (mergeSigns tokens) = leadsWithSign tokens := by
  match tokens with
  | .sign s :: rest => exact leadsWithSign_pushSign s (mergeSigns rest)
  | [] | .number _ :: _ | .scale _ :: _ | .opening :: _ | .closing :: _ | .other _ :: _ => rfl

theorem pushSign_append (s : Sign) (left : List Token) {right : List Token}
    (h : leadsWithSign right = false) : pushSign s (left ++ right) = pushSign s left ++ right := by
  match left with
  | [] => exact pushSign_of_leadsWithSign s h
  | .number _ :: _ | .sign _ :: _ | .scale _ :: _ | .opening :: _ | .closing :: _
  | .other _ :: _ => rfl

theorem mergeSigns_append (left : List Token) {right : List Token}
    (h : leadsWithSign right = false) :
    mergeSigns (left ++ right) = mergeSigns left ++ mergeSigns right := by
  induction left with
  | nil => rfl
  | cons t left ih =>
      rw [List.cons_append]
      cases ht : t.isSign with
      | false => rw [mergeSigns_cons _ ht, mergeSigns_cons _ ht, ih, List.cons_append]
      | true =>
          match t, ht with
          | .sign s, _ =>
              have hright := (leadsWithSign_mergeSigns right).trans h
              rw [mergeSigns_sign_cons, mergeSigns_sign_cons, ih, pushSign_append s _ hright]

theorem mergeSigns_group (span : List Token) :
    mergeSigns (.opening :: span ++ [.closing]) = .opening :: mergeSigns span ++ [.closing] := by
  have hlast : leadsWithSign [.closing] = false := rfl
  exact mergeSigns_append (.opening :: span) hlast

theorem mergeSigns_append_of_getLast? {left : List Token} (right : List Token)
    (h : left.getLast?.any isSign = false) :
    mergeSigns (left ++ right) = mergeSigns left ++ mergeSigns right := by
  rcases List.eq_nil_or_concat left with rfl | ⟨more, t, rfl⟩
  · rfl
  · have ht : t.isSign = false := by simpa using h
    have hlead : ∀ rest, leadsWithSign (t :: rest) = false := fun rest => ht
    rw [List.concat_eq_append, List.append_assoc, List.singleton_append,
      mergeSigns_append more (hlead right), mergeSigns_append more (hlead []),
      mergeSigns_cons right ht, mergeSigns_cons [] ht, List.append_assoc]
    rfl

theorem mergeSigns_signs_append (s : Sign) (run : List Sign) {rest : List Token}
    (h : leadsWithSign rest = false) :
    mergeSigns ((s :: run).map .sign ++ rest) =
      .sign (Sign.ofRun (s :: run)) :: mergeSigns rest := by
  induction run generalizing s with
  | nil =>
      have hrest := (leadsWithSign_mergeSigns rest).trans h
      have hrun : Sign.ofRun [s] = s := by cases s <;> rfl
      rw [hrun]
      exact pushSign_of_leadsWithSign s hrest
  | cons t run ih =>
      rw [List.map_cons, List.cons_append, mergeSigns_sign_cons, ih t]
      rfl

theorem pushSign_pushSign (s t : Sign) (tokens : List Token) :
    pushSign s (pushSign t tokens) = pushSign (s.combine t) tokens := by
  match tokens with
  | .sign u :: more =>
      have hassoc : s.combine (t.combine u) = (s.combine t).combine u := by
        cases s <;> cases t <;> cases u <;> rfl
      exact congrArg (fun sign => Token.sign sign :: more) hassoc
  | [] | .number _ :: _ | .scale _ :: _ | .opening :: _ | .closing :: _ | .other _ :: _ => rfl

theorem mergeSigns_pushSign (s : Sign) (tokens : List Token) :
    mergeSigns (pushSign s tokens) = pushSign s (mergeSigns tokens) := by
  match tokens with
  | .sign t :: more =>
      change mergeSigns (.sign (s.combine t) :: more) = _
      rw [mergeSigns_sign_cons, mergeSigns_sign_cons, pushSign_pushSign]
  | [] | .number _ :: _ | .scale _ :: _ | .opening :: _ | .closing :: _ | .other _ :: _ => rfl

theorem mergeSigns_mergeSigns (tokens : List Token) :
    mergeSigns (mergeSigns tokens) = mergeSigns tokens := by
  induction tokens with
  | nil => rfl
  | cons t tokens ih =>
      cases ht : t.isSign with
      | false => rw [mergeSigns_cons tokens ht, mergeSigns_cons _ ht, ih]
      | true =>
          match t, ht with
          | .sign s, _ => rw [mergeSigns_sign_cons, mergeSigns_pushSign, ih]

theorem mergeSigns_pushSign_append (s : Sign) (left right : List Token) :
    mergeSigns (pushSign s left ++ right) = pushSign s (mergeSigns (left ++ right)) := by
  match left with
  | [] => rfl
  | .sign t :: more =>
      rw [List.cons_append, mergeSigns_sign_cons, pushSign_pushSign]
      rfl
  | .number _ :: _ | .scale _ :: _ | .opening :: _ | .closing :: _ | .other _ :: _ => rfl

/-- A list may be cut anywhere, also within a run, and its parts be merged first. -/
theorem mergeSigns_append_merged (left right : List Token) :
    mergeSigns (left ++ right) = mergeSigns (mergeSigns left ++ mergeSigns right) := by
  induction left with
  | nil => exact (mergeSigns_mergeSigns right).symm
  | cons t left ih =>
      cases ht : t.isSign with
      | false =>
          rw [List.cons_append, mergeSigns_cons _ ht, mergeSigns_cons left ht, List.cons_append,
            mergeSigns_cons _ ht, ih]
      | true =>
          match t, ht with
          | .sign s, _ =>
              rw [List.cons_append, mergeSigns_sign_cons, mergeSigns_sign_cons,
                mergeSigns_pushSign_append, ih]

theorem forall_mem_mergeSigns {admitted : Token → Prop} (hsign : ∀ s, admitted (.sign s))
    {tokens : List Token} (h : ∀ t ∈ tokens, admitted t) : ∀ t ∈ mergeSigns tokens, admitted t := by
  induction tokens with
  | nil => exact h
  | cons t tokens ih =>
      have hrest := ih fun u hu => h u (List.mem_cons_of_mem t hu)
      cases ht : t.isSign with
      | false =>
          rw [mergeSigns_cons tokens ht]
          exact List.forall_mem_cons.mpr ⟨h t List.mem_cons_self, hrest⟩
      | true =>
          match t, ht with
          | .sign s, _ => exact forall_mem_pushSign hsign s hrest

end Calculator.Token
