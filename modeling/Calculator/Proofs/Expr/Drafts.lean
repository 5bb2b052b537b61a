import Calculator.Expr.Draft
import Calculator.Proofs.Result

namespace Calculator

theorem Sign.ofText?_eq_none_iff {text : String} : ofText? text = none ↔ text ∉ ["+", "-"] := by
  rw [ofText?.eq_def]
  split
  · simp
  · simp
  next hplus hminus => simpa using ⟨hplus, hminus⟩

theorem Operator.ofText?_eq_none_iff {text : String} :
    ofText? text = none ↔ text ∉ ["+", "-", "*", "/"] := by
  rw [ofText?.eq_def]
  split
  iterate 4 simp
  next hplus hminus htimes hdivided => simpa using ⟨hplus, hminus, htimes, hdivided⟩

namespace Draft

/-- The nodes of a draft in preorder, each as the part of the draft that it is at the top of. -/
def nodes : Draft → List Draft
  | number value => [number value]
  | unary text operand => unary text operand :: operand.nodes
  | binary text left right => binary text left right :: (left.nodes ++ right.nodes)
  | foreign => [foreign]

/-- That a node is at fault, whatever stands below it. -/
inductive AtFault : Draft → DraftFault → Prop where
  | unary {text : String} (operand : Draft) (unknown : text ∉ ["+", "-"]) :
      AtFault (.unary text operand) (.unaryOperator text)
  | binary {text : String} (left right : Draft) (unknown : text ∉ ["+", "-", "*", "/"]) :
      AtFault (.binary text left right) (.binaryOperator text)
  | foreign : AtFault .foreign .foreignNode

def IsSound (node : Draft) : Prop := ∀ fault, ¬ node.AtFault fault

/-- The fault of the first node in a list that is at fault. -/
inductive FirstFault : List Draft → DraftFault → Prop where
  | here {node : Draft} {fault : DraftFault} (found : node.AtFault fault) (rest : List Draft) :
      FirstFault (node :: rest) fault
  | later {node : Draft} {rest : List Draft} {fault : DraftFault} (sound : node.IsSound)
      (found : FirstFault rest fault) : FirstFault (node :: rest) fault

/-- The value of a draft and the lines of its account, in one walk over the draft: the operator of a
node is looked up, then its operands are evaluated from left to right, then it is applied. The lines
are kept only where they are asked for. -/
def walk (keepsLines : Bool) : Draft → Except DraftFault (Float × List String)
  | number value => .ok (value, [])
  | unary text operand =>
    match Sign.ofText? text with
    | none => .error (.unaryOperator text)
    | some s => do
      let (a, lines) ← operand.walk keepsLines
      return (s.apply a, lines ++ if keepsLines then [(Step.unary s a).text] else [])
  | binary text left right =>
    match Operator.ofText? text with
    | none => .error (.binaryOperator text)
    | some o => do
      let (a, before) ← left.walk keepsLines
      let (b, after) ← right.walk keepsLines
      return (o.apply a b, before ++ after ++ if keepsLines then [(Step.binary o a b).text] else [])
  | foreign => .error .foreignNode

variable {d : Draft} {list : List Draft} {fault : DraftFault} {e : Expr}

theorem AtFault.unique {other : DraftFault} (h : d.AtFault fault) (h' : d.AtFault other) :
    fault = other := by
  cases h <;> cases h' <;> rfl

theorem FirstFault.unique {other : DraftFault} (h : FirstFault list fault)
    (h' : FirstFault list other) : fault = other := by
  induction h with
  | here found rest =>
      cases h' with
      | here found' => exact found.unique found'
      | later sound => exact absurd found (sound _)
  | later sound found ih =>
      cases h' with
      | here found' => exact absurd found' (sound _)
      | later _ found' => exact ih found'

theorem FirstFault.exists_mem (h : FirstFault list fault) : ∃ node ∈ list, node.AtFault fault := by
  induction h with
  | here found rest => exact ⟨_, List.mem_cons_self, found⟩
  | later _ _ ih =>
      obtain ⟨node, hmem, hnode⟩ := ih
      exact ⟨node, List.mem_cons_of_mem _ hmem, hnode⟩

theorem FirstFault.append (h : FirstFault list fault) (more : List Draft) :
    FirstFault (list ++ more) fault := by
  induction h with
  | here found rest => exact .here found (rest ++ more)
  | later sound _ ih => exact .later sound ih

theorem FirstFault.behind {front : List Draft} (hfront : ∀ node ∈ front, node.IsSound)
    (h : FirstFault list fault) : FirstFault (front ++ list) fault := by
  induction front with
  | nil => exact h
  | cons node front ih =>
      obtain ⟨hnode, hrest⟩ := List.forall_mem_cons.mp hfront
      exact .later hnode (ih hrest)

theorem isSound_unary {text : String} {s : Sign} (h : Sign.ofText? text = some s)
    (operand : Draft) : (unary text operand).IsSound := by
  rintro _ ⟨⟩
  next unknown => rw [Sign.ofText?_eq_none_iff.mpr unknown] at h; cases h

theorem isSound_binary {text : String} {o : Operator} (h : Operator.ofText? text = some o)
    (left right : Draft) : (binary text left right).IsSound := by
  rintro _ ⟨⟩
  next unknown => rw [Operator.ofText?_eq_none_iff.mpr unknown] at h; cases h

theorem isSound_of_toExpr (h : d.toExpr = .ok e) : ∀ node ∈ d.nodes, node.IsSound := by
  induction d generalizing e with
  | number value =>
      intro node hnode
      rw [nodes, List.mem_singleton] at hnode
      subst hnode
      rintro _ ⟨⟩
  | unary text operand ih =>
      rw [toExpr] at h
      split at h
      next => cases h
      next s hs =>
        obtain ⟨a, ha, -⟩ := exists_of_bind_eq_ok h
        exact List.forall_mem_cons.mpr ⟨isSound_unary hs operand, ih ha⟩
  | binary text left right ihl ihr =>
      rw [toExpr] at h
      split at h
      next => cases h
      next o ho =>
        obtain ⟨l, hl, hrest⟩ := exists_of_bind_eq_ok h
        obtain ⟨r, hr, -⟩ := exists_of_bind_eq_ok hrest
        refine List.forall_mem_cons.mpr ⟨isSound_binary ho left right, ?_⟩
        exact List.forall_mem_append.mpr ⟨ihl hl, ihr hr⟩
  | foreign => cases h

/-- What a draft is refused for is the fault of its first node at fault. -/
theorem firstFault_of_toExpr (h : d.toExpr = .error fault) : FirstFault d.nodes fault := by
  induction d with
  | number value => cases h
  | unary text operand ih =>
      rw [toExpr] at h
      split at h
      next hnone =>
        cases h
        exact .here (.unary operand (Sign.ofText?_eq_none_iff.mp hnone)) _
      next s hs =>
        rcases bind_eq_error_iff.mp h with hoperand | ⟨a, -, hend⟩
        · exact .later (isSound_unary hs operand) (ih hoperand)
        · cases hend
  | binary text left right ihl ihr =>
      rw [toExpr] at h
      split at h
      next hnone =>
        cases h
        exact .here (.binary left right (Operator.ofText?_eq_none_iff.mp hnone)) _
      next o ho =>
        refine .later (isSound_binary ho left right) ?_
        rcases bind_eq_error_iff.mp h with hleft | ⟨l, hl, hrest⟩
        · exact (ihl hleft).append right.nodes
        · rcases bind_eq_error_iff.mp hrest with hright | ⟨r, -, hend⟩
          · exact (ihr hright).behind (isSound_of_toExpr hl)
          · cases hend
  | foreign =>
      cases h
      exact .here .foreign []

theorem toExpr_eq_error_iff : d.toExpr = .error fault ↔ FirstFault d.nodes fault := by
  constructor
  · exact firstFault_of_toExpr
  · intro hfirst
    cases hexpr : d.toExpr with
    | error other => rw [hfirst.unique (firstFault_of_toExpr hexpr)]
    | ok e =>
        obtain ⟨node, hmem, hnode⟩ := hfirst.exists_mem
        exact absurd hnode (isSound_of_toExpr hexpr node hmem fault)

theorem exists_toExpr_iff : (∃ e, d.toExpr = .ok e) ↔ ∀ node ∈ d.nodes, node.IsSound := by
  constructor
  · rintro ⟨e, h⟩
    exact isSound_of_toExpr h
  · intro hsound
    cases hexpr : d.toExpr with
    | error fault =>
        obtain ⟨node, hmem, hnode⟩ := (firstFault_of_toExpr hexpr).exists_mem
        exact absurd hnode (hsound node hmem fault)
    | ok e => exact ⟨e, rfl⟩

theorem lines_unary (s : Sign) (e : Expr) : (Expr.unary s e).calculate.lines =
    e.calculate.lines ++ [(Step.unary s e.evaluate).text] := by
  rw [Expr.calculate, Calculation.lines, List.map_append, e.calculate_value]
  rfl

theorem lines_binary (o : Operator) (l r : Expr) : (Expr.binary o l r).calculate.lines =
    l.calculate.lines ++ r.calculate.lines ++ [(Step.binary o l.evaluate r.evaluate).text] := by
  rw [Expr.calculate, Calculation.lines, List.map_append, List.map_append, l.calculate_value,
    r.calculate_value]
  rfl

/-- One walk finds what is found by making an expression of the draft first. -/
theorem walk_eq (keepsLines : Bool) (d : Draft) :
    d.walk keepsLines =
      d.toExpr.map fun e => (e.evaluate, if keepsLines then e.calculate.lines else []) := by
  induction d with
  | number value => cases keepsLines <;> rfl
  | unary text operand ih =>
      rw [walk, toExpr, ih]
      cases Sign.ofText? text with
      | none => rfl
      | some s =>
          cases operand.toExpr with
          | error fault => rfl
          | ok e =>
              change Except.ok _ = Except.ok ((Expr.unary s e).evaluate, _)
              cases keepsLines with
              | false => rfl
              | true =>
                  rw [lines_unary]
                  rfl
  | binary text left right ihl ihr =>
      rw [walk, toExpr, ihl, ihr]
      cases Operator.ofText? text with
      | none => rfl
      | some o =>
          cases left.toExpr with
          | error fault => rfl
          | ok l =>
              cases right.toExpr with
              | error fault => rfl
              | ok r =>
                  change Except.ok _ = Except.ok ((Expr.binary o l r).evaluate, _)
                  cases keepsLines with
                  | false => rfl
                  | true =>
                      rw [lines_binary]
                      rfl
  | foreign => rfl

/-- A draft is refused if one of its nodes is at fault, for the fault of the first such node in
preorder, and otherwise it has a value and an account with that value. To evaluate it node by node
comes to the same, with the lines of the account and without them. -/
theorem first_fault_in_preorder (d : Draft) :
    ((∃ fault, d.evaluate = .error fault) ↔
        ∃ node ∈ d.nodes, ∃ fault, node.AtFault fault) ∧
      (∀ fault, d.evaluate = .error fault ↔ FirstFault d.nodes fault) ∧
      (∀ fault, d.calculate = .error fault ↔ FirstFault d.nodes fault) ∧
      ((∀ node ∈ d.nodes, node.IsSound) →
        ∃ c, d.calculate = .ok c ∧ d.evaluate = .ok c.value) ∧
      d.walk false = d.evaluate.map (·, []) ∧
      d.walk true = d.calculate.map fun c => (c.value, c.lines) := by
  refine ⟨?_, fun fault => ?_, fun fault => ?_, fun hsound => ?_, ?_, ?_⟩
  · constructor
    · rintro ⟨fault, h⟩
      obtain ⟨node, hmem, hnode⟩ := (firstFault_of_toExpr (map_eq_error_iff.mp h)).exists_mem
      exact ⟨node, hmem, fault, hnode⟩
    · rintro ⟨node, hmem, fault, hnode⟩
      rw [exists_eq_error_iff]
      rintro ⟨a, ha⟩
      obtain ⟨e, he, -⟩ := map_eq_ok_iff.mp ha
      exact isSound_of_toExpr he node hmem fault hnode
  · rw [evaluate, map_eq_error_iff, toExpr_eq_error_iff]
  · rw [calculate, map_eq_error_iff, toExpr_eq_error_iff]
  · obtain ⟨e, he⟩ := exists_toExpr_iff.mpr hsound
    refine ⟨e.calculate, ?_, ?_⟩
    · rw [calculate, he]
      rfl
    · rw [evaluate, he, e.calculate_value]
      rfl
  · rw [walk_eq, evaluate]
    cases d.toExpr <;> rfl
  · rw [walk_eq, calculate]
    cases d.toExpr with
    | error fault => rfl
    | ok e => exact congrArg (fun a => Except.ok (a, e.calculate.lines)) e.calculate_value.symm

end Draft

end Calculator
