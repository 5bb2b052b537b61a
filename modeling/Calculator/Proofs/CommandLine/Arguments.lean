import Calculator.CommandLine.Invocation
import Calculator.Proofs.Result

/-!
Arguments with a value attached to a long name. Whatever the value, such an argument is told by
the name before the equals sign: one parser takes it for its option, and another, which has no
such name, leaves it alone.
-/

namespace Calculator.CommandLine

variable {switches : List Switch} {s : Switch} {name value : List Char}

theorem splitValue_attached (hname : '=' ∉ name) :
    splitValue (name ++ '=' :: value) = (name, some value) := by
  have hbefore : ∀ c ∈ name, (c != '=') = true := by
    intro c hc
    exact bne_iff_ne.mpr fun h => hname (h ▸ hc)
  rw [splitValue, List.takeWhile_append_of_pos hbefore, List.dropWhile_append_of_pos hbefore]
  simp

theorem named?_eq_none {text : List Char} (h : ∀ p ∈ namesOf switches, p.1.toList ≠ text) :
    named? switches text = none := by
  rw [named?, List.lookup_eq_none_iff]
  intro p hp
  have hne := h p hp
  rw [bne_iff_ne]
  intro hname
  rw [← hname, String.toList_ofList] at hne
  exact hne rfl

theorem named?_attached (hnames : ∀ p ∈ namesOf switches, '=' ∉ p.1.toList) :
    named? switches (name ++ '=' :: value) = none := by
  refine named?_eq_none fun p hp hname => hnames p hp ?_
  rw [hname]
  exact List.mem_append_right _ List.mem_cons_self

theorem readArgument_attached (hnames : ∀ p ∈ namesOf switches, '=' ∉ p.1.toList)
    (hname : '=' ∉ '-' :: name) (hs : named? switches ('-' :: name) = some s) :
    readArgument switches (String.ofList ('-' :: name ++ '=' :: value)) =
      .ok (.switch s (String.ofList ('-' :: name)) (some value)) := by
  have hwhole : named? switches ('-' :: name ++ '=' :: value) = none := named?_attached hnames
  have hsplit : splitValue ('-' :: name ++ '=' :: value) = ('-' :: name, some value) :=
    splitValue_attached hname
  rw [readArgument, String.toList_ofList]
  simp only [hwhole, hsplit, Option.bind_some, hs]
  simp

/-- A parser that has no name which begins like this takes the argument for none of its options. -/
theorem exists_readArgument_attached (hnames : ∀ p ∈ namesOf switches, '=' ∉ p.1.toList)
    (hname : '=' ∉ '-' :: '-' :: name)
    (hother : ∀ p ∈ namesOf switches, ('-' :: '-' :: name).isPrefixOf p.1.toList = false) :
    ∃ argument,
      readArgument switches (String.ofList ('-' :: '-' :: name ++ '=' :: value)) =
        .ok argument := by
  have hwhole : named? switches ('-' :: '-' :: name ++ '=' :: value) = none :=
    named?_attached hnames
  have hsplit : splitValue ('-' :: '-' :: name ++ '=' :: value) =
      ('-' :: '-' :: name, some value) :=
    splitValue_attached hname
  have hnamed : named? switches ('-' :: '-' :: name) = none := by
    refine named?_eq_none fun p hp hname => ?_
    have hself := List.isPrefixOf_iff_prefix.mpr (List.prefix_refl ('-' :: '-' :: name))
    have hnone := hother p hp
    rw [hname, hself] at hnone
    cases hnone
  have hcandidates : candidates switches ('-' :: '-' :: name ++ '=' :: value) = [] := by
    simp only [List.cons_append] at hsplit
    simp only [List.cons_append, candidates, hsplit, List.filterMap_eq_nil_iff]
    intro p hp
    rw [hother p hp]
    rfl
  rw [readArgument, String.toList_ofList]
  simp only [hwhole, hsplit, Option.bind_some, hnamed, hcandidates]
  simp

theorem readArguments_cons {text : String} {rest : List String} (h : text ≠ "--") :
    readArguments switches (text :: rest) = do
      let argument ← readArgument switches text
      let arguments ← readArguments switches rest
      return (text, argument) :: arguments := by
  rw [readArguments]
  exact h

theorem map_fst_of_readArguments {arguments : List String} {judged : List (String × Argument)}
    (h : readArguments switches arguments = .ok judged) : judged.map (·.1) = arguments := by
  induction arguments generalizing judged with
  | nil =>
      cases h
      rfl
  | cons text rest ih =>
      rcases Decidable.em (text = "--") with rfl | hne
      · cases h
        simp [Function.comp_def]
      · rw [readArguments_cons hne] at h
        obtain ⟨argument, -, h⟩ := exists_of_bind_eq_ok h
        obtain ⟨arguments, harguments, h⟩ := exists_of_bind_eq_ok h
        cases h
        rw [List.map_cons, ih harguments]

theorem readOptions_of_readArguments {arguments : List String} {judged : List (String × Argument)}
    (h : readArguments switches arguments = .ok judged) (takesCommand : Bool) :
    readOptions switches takesCommand arguments = useArguments switches takesCommand {} judged := by
  rw [readOptions, h]
  rfl

theorem readArgument_name (c : Command) : readArgument programSwitches c.name = .ok .operand := by
  cases c <;> rfl

theorem name_ne (c : Command) : c.name ≠ "--" := by
  cases c <;> decide

def textArgument (text : String) : String := "--text=" ++ text

theorem textArgument_eq (text : String) :
    textArgument text = String.ofList ("--text".toList ++ '=' :: text.toList) := by
  rw [textArgument, ← String.toList_inj]
  simp

theorem textArgument_ne (text : String) : textArgument text ≠ "--" := by
  intro h
  have hlist := congrArg String.toList h
  rw [textArgument, String.toList_append] at hlist
  simp at hlist

theorem readArgument_textArgument {c : Command} (h : c ≠ .repl) (text : String) :
    readArgument c.switches (textArgument text) =
      .ok (.switch textSwitch "--text" (some text.toList)) := by
  have hnames : ∀ p ∈ namesOf c.switches, '=' ∉ p.1.toList := by
    cases c <;> decide
  have hnamed : named? c.switches "--text".toList = some textSwitch := by
    cases c with
    | eval | tokens | check => decide
    | repl => exact absurd rfl h
  rw [textArgument_eq]
  exact readArgument_attached hnames (by decide) hnamed

theorem readArguments_textArgument {c : Command} (h : c ≠ .repl) (text : String) :
    readArguments c.switches [textArgument text] =
      .ok [(textArgument text, .switch textSwitch "--text" (some text.toList))] := by
  rw [readArguments_cons (textArgument_ne text), readArgument_textArgument h text]
  rfl

theorem exists_readArgument_textArgument (text : String) :
    ∃ argument, readArgument programSwitches (textArgument text) = .ok argument := by
  have hnames : ∀ p ∈ namesOf programSwitches, '=' ∉ p.1.toList := by decide
  have hother : ∀ p ∈ namesOf programSwitches, "--text".toList.isPrefixOf p.1.toList = false := by
    decide
  rw [textArgument_eq]
  exact exists_readArgument_attached hnames (by decide) hother

/-- What a text is taken for behind the equals sign. -/
def givenText (keepsHyphens : Bool) (text : String) : Setting :=
  if text = "--" ∧ !keepsHyphens then .blank else .value text

theorem ofSwitch_textSwitch (text : String) :
    Cluster.ofSwitch switches textSwitch "--text" (some text.toList) =
      .ok { given := [(textSwitch, some text)] } := by
  have htext : some text = some (String.ofList text.toList) := by rw [String.ofList_toList]
  rw [Cluster.ofSwitch, htext]
  cases text.toList <;> rfl

theorem useArguments_textArgument (used : Used) (text : String) :
    useArguments switches false used
        [(textArgument text, .switch textSwitch "--text" (some text.toList))] =
      .ok { used with given := used.given ++ [(textSwitch, some text)] } := by
  rw [useArguments, ofSwitch_textSwitch]
  rfl

/-- The commands about one text, with their options. -/
inductive Inquiry where
  | eval (steps : Bool)
  | tokens
  | check

namespace Inquiry

def command : Inquiry → Command
  | eval _ => .eval
  | tokens => .tokens
  | check => .check

def steps : Inquiry → Bool
  | eval steps => steps
  | tokens | check => false

def options : Inquiry → List String
  | eval true => ["--steps"]
  | eval false | tokens | check => []

def arguments (q : Inquiry) : List String := q.command.name :: q.options

theorem command_ne_repl (q : Inquiry) : q.command ≠ .repl := by
  cases q <;> nofun

theorem ofArguments_arguments (q : Inquiry) (keepsHyphens : Bool) :
    Invocation.ofArguments keepsHyphens q.arguments = .ok ⟨.unset, q.command, .unset, q.steps⟩ := by
  match q with
  | eval true | eval false | tokens | check => rfl

/-- The name of a command and all that comes behind it is left to the command. -/
theorem readOptions_program (q : Inquiry) (text : String) :
    readOptions programSwitches true (q.arguments ++ [textArgument text]) =
      .ok { command := q.arguments ++ [textArgument text] } := by
  have hrest : ∃ judged,
      readArguments programSwitches (q.options ++ [textArgument text]) = .ok judged := by
    obtain ⟨argument, hargument⟩ := exists_readArgument_textArgument text
    have hlast : readArguments programSwitches [textArgument text] =
        .ok [(textArgument text, argument)] := by
      rw [readArguments_cons (textArgument_ne text), hargument]
      rfl
    match q with
    | eval false | tokens | check => exact ⟨_, hlast⟩
    | eval true =>
        refine ⟨[("--steps", .unknown), (textArgument text, argument)], ?_⟩
        change readArguments programSwitches ("--steps" :: [textArgument text]) = _
        rw [readArguments_cons (by decide), hlast]
        rfl
  obtain ⟨judged, hjudged⟩ := hrest
  have hwhole : readArguments programSwitches (q.arguments ++ [textArgument text]) =
      .ok ((q.command.name, .operand) :: judged) := by
    rw [arguments, List.cons_append, readArguments_cons (name_ne q.command), readArgument_name,
      hjudged]
    rfl
  rw [readOptions_of_readArguments hwhole, useArguments, if_pos rfl,
    map_fst_of_readArguments hjudged]
  rfl

theorem readOptions_command (q : Inquiry) (text : String) :
    readOptions q.command.switches false (q.options ++ [textArgument text]) =
      .ok { given := (if q.steps then [(stepsSwitch, none)] else []) ++
        [(textSwitch, some text)] } := by
  have hlast := readArguments_textArgument q.command_ne_repl text
  match q with
  | eval false | tokens | check =>
      rw [options, List.nil_append, readOptions_of_readArguments hlast, useArguments_textArgument]
      rfl
  | eval true =>
      have hwhole : readArguments Command.eval.switches ("--steps" :: [textArgument text]) =
          .ok [("--steps", .switch stepsSwitch "--steps" none),
            (textArgument text, .switch textSwitch "--text" (some text.toList))] := by
        change readArguments Command.eval.switches _ = _ at hlast
        rw [readArguments_cons (by decide), hlast]
        rfl
      change readOptions Command.eval.switches false ("--steps" :: [textArgument text]) = _
      rw [readOptions_of_readArguments hwhole]
      exact useArguments_textArgument { given := [(stepsSwitch, none)] } text

theorem ofArguments_text (q : Inquiry) (keepsHyphens : Bool) (text : String) :
    Invocation.ofArguments keepsHyphens (q.arguments ++ [textArgument text]) =
      .ok ⟨.unset, q.command, givenText keepsHyphens text, q.steps⟩ := by
  have hcommand : Command.ofName? q.command.name = some q.command := by
    cases q.command <;> rfl
  rw [Invocation.ofArguments, readOptions_program]
  simp only [arguments, List.cons_append, mapError_ok, Except.bind, bind, hcommand,
    readOptions_command]
  cases q.steps <;> rfl

end Inquiry

end Calculator.CommandLine
