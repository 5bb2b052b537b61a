import Calculator.Proofs.Expression.NormalForm
import Calculator.Proofs.Token.Reading

namespace Calculator

open Token
open Text (isBlank spaced)

/-- The tokens of a text, written out with single spaces. -/
def canonical (text : String) : Except LexicalFault String :=
  (tokens text).map joined

namespace Token

variable {t : Token} {tokens : List Token} {c : Char}

theorem text_ne_nil (h : t.isNotation = true) : t.text.toList ≠ [] := by
  intro hnil
  have hread := ofChars?_text h
  rw [hnil, ofChars?_nil] at hread
  cases hread

theorem space_notMem_text (h : t.isNotation = true) : ' ' ∉ t.text.toList := by
  cases hn : t.isNumber with
  | false =>
      obtain ⟨c, htext, hc⟩ := exists_symbol h hn
      rw [htext, List.mem_singleton]
      rintro rfl
      cases hc
  | true =>
      match t, hn with
      | .number n, _ =>
          rw [toList_text_number]
          intro hspace
          cases isNumeralChar_of_mem_chars hspace

theorem solid_of_mem_text (h : t.isNotation = true) (hc : c ∈ t.text.toList) :
    isBlank c = false ∧ standardChar c = c := by
  have hplain : ∀ d ∈ t.text.toList, plainChar d = d :=
    List.map_inj_left.mp ((map_plainChar_text h).trans (List.map_id _).symm)
  have hsame := hplain c hc
  cases hblank : isBlank c with
  | true =>
      rw [plainChar_of_isBlank hblank] at hsame
      exact absurd (hsame ▸ hc) (space_notMem_text h)
  | false => exact ⟨rfl, (plainChar_of_solid hblank).symm.trans hsame⟩

theorem toList_joined (tokens : List Token) :
    (joined tokens).toList = spaced (tokens.map fun t => t.text.toList) := by
  rw [joined, String.toList_intercalate, List.map_map]
  rfl

/-- Two numerals are kept apart too, since there is a space between any two tokens. -/
theorem ofChars?_joined (h : ∀ t ∈ tokens, t.isNotation = true) :
    ofChars? (joined tokens).toList = some tokens := by
  rw [toList_joined]
  induction tokens with
  | nil => exact ofChars?_nil
  | cons t rest ih =>
      have ht := ofChars?_text (h t List.mem_cons_self)
      have hrest := ih fun u hu => h u (List.mem_cons_of_mem t hu)
      cases rest with
      | nil => rw [List.map_singleton, Text.spaced_singleton, ht]
      | cons u more =>
          rw [List.map_cons] at hrest
          rw [List.map_cons, List.map_cons, Text.spaced_cons_cons, ofChars?_append_space, ht, hrest]
          rfl

theorem normalChars_joined (h : ∀ t ∈ tokens, t.isNotation = true) :
    normalChars (joined tokens).toList = (joined tokens).toList := by
  rw [toList_joined]
  apply IsNormal.normalChars_eq_self
  apply IsNormal.of_spaced
  intro word hword
  obtain ⟨t, ht, rfl⟩ := List.mem_map.mp hword
  refine ⟨text_ne_nil (h t ht), fun c hc => ?_⟩
  obtain ⟨hblank, hstandard⟩ := solid_of_mem_text (h t ht) hc
  exact ⟨hblank, hstandard ▸ standardChar_notMem c⟩

end Token

variable {text : String} {merged : List Token}

theorem normalize_joined (h : ∀ t ∈ merged, t.isNotation = true) :
    normalize (joined merged) = joined merged := by
  rw [normalize, normalChars_joined h, String.ofList_toList]

theorem tokens_joined (h : tokens text = .ok merged) : tokens (joined merged) = .ok merged := by
  have hnotation := isNotation_of_tokens h
  obtain ⟨written, -, rfl⟩ := map_eq_ok_iff.mp h
  refine map_eq_ok_iff.mpr ⟨mergeSigns written, ?_, mergeSigns_mergeSigns written⟩
  rw [writtenTokens, normalChars_joined hnotation]
  exact ofChars?_eq_some_iff.mp (ofChars?_joined hnotation)

theorem parse_of_tokens_cases (h : tokens text = .ok merged) :
    (∃ e, parse text = .ok e) ∨ ∃ fault, parse text = .error (.structural fault) := by
  rcases report_cases text with
    ⟨fault, htokens, -⟩ | ⟨_, fault, _, -, -, hparse⟩ | ⟨_, e, -, -, hparse⟩
  · cases h.symm.trans htokens
  · exact .inr ⟨fault, hparse⟩
  · exact .inl ⟨e, hparse⟩

/-- Whoever writes out the tokens of a text with single spaces has a text with the same tokens,
which is in normal form and is written out as itself; and the tree or the fault, the value, the
account and the issues are those of the text. -/
theorem canonical_text (text : String) (merged : List Token) (h : tokens text = .ok merged) :
    tokens (joined merged) = .ok merged ∧
      normalize (joined merged) = joined merged ∧
      canonical (joined merged) = .ok (joined merged) ∧
      ((∃ e, parse text = .ok e ∧ parse (joined merged) = .ok e) ∨
        ∃ fault, parse text = .error (.structural fault) ∧
          parse (joined merged) = .error (.structural fault)) ∧
      evaluate (joined merged) = evaluate text ∧
      calculate (joined merged) = calculate text ∧
      issues (joined merged) = issues text := by
  have htokens := tokens_joined h
  have hsame : tokens (joined merged) = tokens text := htokens.trans h.symm
  refine ⟨htokens, normalize_joined (isNotation_of_tokens h), ?_, ?_, evaluate_congr hsame,
    calculate_congr hsame, issues_congr hsame⟩
  · rw [canonical, htokens]
    rfl
  · rw [parse_congr hsame]
    exact (parse_of_tokens_cases h).imp (fun ⟨e, he⟩ => ⟨e, he, he⟩)
      fun ⟨fault, hfault⟩ => ⟨fault, hfault, hfault⟩

theorem canonical_text_of_dashes :
    tokens ".5 \u2014\t\u2212\u2212(3,)" =
        .ok [.number ⟨0, [], [5]⟩, .sign .minus, .opening, .number ⟨3, [], [0]⟩, .closing] ∧
      canonical "0.5 - ( 3.0 )" = .ok "0.5 - ( 3.0 )" ∧
      calculate "0.5 - ( 3.0 )" = calculate ".5 \u2014\t\u2212\u2212(3,)" := by
  have htokens : tokens ".5 \u2014\t\u2212\u2212(3,)" =
      .ok [.number ⟨0, [], [5]⟩, .sign .minus, .opening, .number ⟨3, [], [0]⟩, .closing] := by
    decide +kernel
  have hjoined : joined [.number ⟨0, [], [5]⟩, .sign .minus, .opening, .number ⟨3, [], [0]⟩,
      .closing] = "0.5 - ( 3.0 )" := by decide
  obtain ⟨-, -, hcanonical, -, -, haccount, -⟩ := canonical_text _ _ htokens
  rw [hjoined] at hcanonical haccount
  exact ⟨htokens, hcanonical, haccount⟩

end Calculator
