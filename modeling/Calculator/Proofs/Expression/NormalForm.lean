import Calculator.Proofs.Expression.Reports
import Calculator.Proofs.Token.Spacing

namespace Calculator

open Text (isBlank words spaced words_spaced solid_of_mem_words)

def replacedChars : List Char := ['\u2013', '\u2014', '\u2212', ',']

/-- The words of a text in standard characters. -/
def standardWords (text : List Char) : List (List Char) :=
  (words text).map fun word => word.map standardChar

/-- No blank stands at an end of the text, a blank inside is a space that stands alone, and no
character is to be replaced. -/
structure IsNormal (text : List Char) : Prop where
  head : ∀ c ∈ text.head?, isBlank c = false
  last : ∀ c ∈ text.getLast?, isBlank c = false
  space : ∀ c ∈ text, isBlank c = true → c = ' '
  single : text.IsChain fun c d => isBlank c = true → isBlank d = false
  standard : ∀ c ∈ text, c ∉ replacedChars

variable {c : Char} {text word front rest : List Char} {parts : List (List Char)}

theorem standardChar_eq_self (h : c ∉ replacedChars) : standardChar c = c := by
  simp only [replacedChars, List.mem_cons, not_or] at h
  simp [standardChar, h]

theorem standardChar_notMem (c : Char) : standardChar c ∉ replacedChars := by
  by_cases h : c ∈ replacedChars
  · fin_cases h <;> decide
  · rwa [standardChar_eq_self h]

/-- Neither the characters that are replaced nor those in their place are blanks. -/
theorem isBlank_standardChar (c : Char) : isBlank (standardChar c) = isBlank c := by
  by_cases h : c ∈ replacedChars
  · fin_cases h <;> decide
  · rw [standardChar_eq_self h]

theorem solid_of_mem_standardWords (h : word ∈ standardWords text) :
    word ≠ [] ∧ ∀ c ∈ word, isBlank c = false ∧ c ∉ replacedChars := by
  obtain ⟨source, hsource, rfl⟩ := List.mem_map.mp h
  obtain ⟨hne, hsolid⟩ := solid_of_mem_words hsource
  constructor
  · simpa using hne
  · intro c hc
    obtain ⟨d, hd, rfl⟩ := List.mem_map.mp hc
    exact ⟨(isBlank_standardChar d).trans (hsolid d hd), standardChar_notMem d⟩

theorem normalChars_eq_spaced (text : List Char) :
    normalChars text = spaced (standardWords text) := by
  rw [normalChars_eq_spaced_words, Text.map_spaced standardChar standardChar_space]
  rfl

/-- The words of the text, in standard characters, are those of its normal form. -/
theorem words_normalChars (text : List Char) : words (normalChars text) = standardWords text := by
  rw [normalChars_eq_spaced]
  apply words_spaced
  · intro word hword
    exact (solid_of_mem_standardWords hword).1
  · intro word hword c hc
    exact ((solid_of_mem_standardWords hword).2 c hc).1

namespace IsNormal

theorem of_solid (h : ∀ c ∈ word, isBlank c = false ∧ c ∉ replacedChars) : IsNormal word where
  head c hc := (h c (List.mem_of_mem_head? hc)).1
  last c hc := (h c (List.mem_of_getLast? hc)).1
  space c hc hblank := by simp [(h c hc).1] at hblank
  single := by
    apply List.Pairwise.isChain
    apply List.pairwise_of_forall_mem_list
    intro c _ d hd _
    exact (h d hd).1
  standard c hc := (h c hc).2

theorem append_space (hfront : IsNormal front) (hrest : IsNormal rest) (hne : front ≠ [])
    (hne' : rest ≠ []) : IsNormal (front ++ ' ' :: rest) where
  head c hc := by
    rw [List.head?_append_of_ne_nil front hne] at hc
    exact hfront.head c hc
  last c hc := by
    rw [List.getLast?_append_cons, List.getLast?_cons_of_ne_nil hne'] at hc
    exact hrest.last c hc
  space c hc hblank := by
    rw [List.mem_append, List.mem_cons] at hc
    rcases hc with hc | rfl | hc
    · exact hfront.space c hc hblank
    · rfl
    · exact hrest.space c hc hblank
  single := by
    rw [List.isChain_append, List.isChain_cons]
    refine ⟨hfront.single, ⟨fun d hd _ => hrest.head d hd, hrest.single⟩, ?_⟩
    intro c hc d _ hblank
    simp [hfront.last c hc] at hblank
  standard c hc := by
    rw [List.mem_append, List.mem_cons] at hc
    rcases hc with hc | rfl | hc
    · exact hfront.standard c hc
    · decide
    · exact hrest.standard c hc

theorem of_spaced
    (h : ∀ word ∈ parts, word ≠ [] ∧ ∀ c ∈ word, isBlank c = false ∧ c ∉ replacedChars) :
    IsNormal (spaced parts) := by
  induction parts with
  | nil => exact of_solid (by simp [spaced])
  | cons word rest ih =>
      obtain ⟨hne, hsolid⟩ := h word List.mem_cons_self
      have hrest := ih fun v hv => h v (List.mem_cons_of_mem word hv)
      cases rest with
      | nil =>
          rw [Text.spaced_singleton]
          exact of_solid hsolid
      | cons v more =>
          rw [Text.spaced_cons_cons]
          apply append_space (of_solid hsolid) hrest hne
          exact Text.spaced_ne_nil (h v (by simp)).1 more

theorem dropBlanks_eq_self (h : ∀ c ∈ text.head?, isBlank c = false) :
    Text.dropBlanks text = text := by
  cases text with
  | nil => rfl
  | cons c rest => simp [Text.dropBlanks, h c rfl]

theorem trim_eq_self (h : IsNormal text) : Text.trim text = text := by
  have hback : ∀ c ∈ text.reverse.head?, isBlank c = false := by simpa using h.last
  rw [Text.trim, dropBlanks_eq_self h.head, dropBlanks_eq_self hback, List.reverse_reverse]

/-- The ends are left open here, since the rest of a text in normal form may begin with a space. -/
theorem collapse_eq_self (hspace : ∀ c ∈ text, isBlank c = true → c = ' ')
    (hsingle : text.IsChain fun c d => isBlank c = true → isBlank d = false) :
    Text.collapse text = text := by
  induction text with
  | nil => rfl
  | cons c rest ih =>
      rw [List.isChain_cons] at hsingle
      have hrest := ih (fun d hd => hspace d (List.mem_cons_of_mem c hd)) hsingle.2
      cases hc : isBlank c with
      | false => simp [Text.collapse, hc, hrest]
      | true =>
          obtain rfl := hspace c List.mem_cons_self hc
          have hnext : rest.head?.any isBlank = false := by
            rw [Option.any_eq_false]
            intro d hd
            simpa using hsingle.1 d hd hc
          simp [Text.collapse, hc, hnext, hrest]

theorem normalChars_eq_self (h : IsNormal text) : normalChars text = text := by
  rw [normalChars, h.trim_eq_self, collapse_eq_self h.space h.single]
  exact (List.map_congr_left fun c hc => standardChar_eq_self (h.standard c hc)).trans
    (List.map_id text)

end IsNormal

theorem isNormal_normalChars (text : List Char) : IsNormal (normalChars text) := by
  rw [normalChars_eq_spaced]
  exact .of_spaced fun _ => solid_of_mem_standardWords

theorem normalChars_eq_self_iff : normalChars text = text ↔ IsNormal text := by
  constructor
  · intro h
    rw [← h]
    exact isNormal_normalChars text
  · exact IsNormal.normalChars_eq_self

theorem length_normalChars_le (text : List Char) : (normalChars text).length ≤ text.length := by
  rw [normalChars, List.length_map]
  exact (Text.length_collapse_le _).trans (Text.length_trim_le text)

theorem normalChars_eq_iff {other : List Char} :
    normalChars text = normalChars other ↔ standardWords text = standardWords other := by
  constructor
  · intro h
    rw [← words_normalChars, ← words_normalChars, h]
  · intro h
    rw [normalChars_eq_spaced, normalChars_eq_spaced, h]

theorem toList_normalize (text : String) : (normalize text).toList = normalChars text.toList := by
  rw [normalize, String.toList_ofList]

theorem normalize_eq_iff {text other : String} :
    normalize text = normalize other ↔ standardWords text.toList = standardWords other.toList := by
  rw [← normalChars_eq_iff, ← toList_normalize, ← toList_normalize, String.toList_inj]

theorem normalize_eq_self_iff {text : String} : normalize text = text ↔ IsNormal text.toList := by
  rw [← normalChars_eq_self_iff, ← toList_normalize, String.toList_inj]

theorem isNormal_normalize (text : String) : IsNormal (normalize text).toList := by
  rw [toList_normalize]
  exact isNormal_normalChars text.toList

theorem normalize_normalize (text : String) : normalize (normalize text) = normalize text := by
  rw [normalize_eq_self_iff]
  exact isNormal_normalize text

/-- Two texts fare alike at every stage behind the normal form. -/
structure FareAlike (text other : String) : Prop where
  written : writtenTokens text = writtenTokens other
  merged : tokens text = tokens other
  tree : parse text = parse other
  unvalidated : parseUnvalidated text = parseUnvalidated other
  value : evaluate text = evaluate other
  account : calculate text = calculate other
  reported : issues text = issues other

theorem fareAlike_of_normalize {text other : String} (h : normalize text = normalize other) :
    FareAlike text other := by
  have hwritten : writtenTokens text = writtenTokens other := by
    rw [writtenTokens, writtenTokens, ← toList_normalize, ← toList_normalize, h]
  have hmerged : tokens text = tokens other := by
    rw [tokens, tokens, hwritten]
  constructor
  · exact hwritten
  · exact hmerged
  · exact parse_congr hmerged
  · rw [parseUnvalidated, parseUnvalidated, hmerged]
  · exact evaluate_congr hmerged
  · exact calculate_congr hmerged
  · exact issues_congr hmerged

/-- The normal form of a text is its words in standard characters with single spaces between them,
and nothing is left to normalize in it. It is never longer than the text. Texts whose words agree
in standard characters, and no others, have one normal form, and they fare alike from there on,
down to the positions in their issues. -/
theorem normalize_canonical (text : String) :
    (normalize text).toList = spaced (standardWords text.toList) ∧
      normalize (normalize text) = normalize text ∧
      IsNormal (normalize text).toList ∧
      (normalize text).length ≤ text.length ∧
      ∀ other : String,
        (standardWords text.toList = standardWords other.toList ↔
            normalize text = normalize other) ∧
          (standardWords text.toList = standardWords other.toList → FareAlike text other) := by
  refine ⟨?_, normalize_normalize text, isNormal_normalize text, ?_, fun other => ⟨?_, ?_⟩⟩
  · rw [toList_normalize, normalChars_eq_spaced]
  · rw [← String.length_toList, ← String.length_toList, toList_normalize]
    exact length_normalChars_le text.toList
  · exact normalize_eq_iff.symm
  · intro hwords
    exact fareAlike_of_normalize (normalize_eq_iff.mpr hwords)

example : normalize "\t2 \u00a0 \u2212\u2013 1,5\r\n" = "2 -- 1.5" := by decide

end Calculator
