import Calculator.Proofs.Token.Texts
import Mathlib.Data.List.Count

/-!
Runs of signs among arbitrary texts. In each gap between two other texts the signs amount to one,
told by the parity of the hyphens in it. Whoever keeps a run pending until it ends and reads it as
one text writes the same and never meets a run that cannot be read; and lists may be merged in
parts, wherever they are cut.
-/

namespace Calculator

/-- A run amounts to a minus if an odd number of its signs are. -/
theorem Sign.ofRun_eq_parity (run : List Sign) :
    ofRun run = if run.count .minus % 2 = 1 then .minus else .plus := by
  induction run with
  | nil => rfl
  | cons s run ih =>
      have hstep : ofRun (s :: run) = s.combine (ofRun run) := rfl
      cases s with
      | plus =>
          have hcount : (plus :: run).count minus = run.count minus :=
            List.count_cons_of_ne (by decide)
          rw [hstep, hcount, ih]
          rfl
      | minus =>
          rw [hstep, List.count_cons_self, ih]
          rcases Nat.mod_two_eq_zero_or_one (run.count minus) with heven | hodd
          · have hnext : (run.count minus + 1) % 2 = 1 := by omega
            rw [if_neg (by omega), if_pos hnext]
            rfl
          · have hnext : ¬ (run.count minus + 1) % 2 = 1 := by omega
            rw [if_pos hodd, if_neg hnext]
            rfl

namespace Token

/-- The texts that are left when the runs of signs are merged. -/
def mergedTexts (texts : List String) : List String :=
  (mergeSigns (texts.map ofText)).map text

/-- The longest runs of signs, empty ones too: before, between and behind all other texts. -/
def gaps (texts : List String) : List (List String) :=
  texts.splitOnP (! isSignText ·)

/-- One sign for a gap that holds any, a hyphen if it holds an odd number of them. -/
def signOfGap (gap : List String) : List String :=
  if gap = [] then [] else [if gap.count "-" % 2 = 1 then "-" else "+"]

variable {t : String} {texts rest : List String}

theorem isSignText_text (s : Sign) : isSignText s.text = true := by
  cases s <;> rfl

theorem exists_sign (h : isSignText t = true) : ∃ s : Sign, t = s.text := by
  rw [isSignText, Bool.or_eq_true, beq_iff_eq, beq_iff_eq] at h
  rcases h with rfl | rfl
  · exact ⟨.plus, rfl⟩
  · exact ⟨.minus, rfl⟩

theorem isSign_ofText (t : String) : (ofText t).isSign = isSignText t := by
  cases ht : isSignText t with
  | true =>
      obtain ⟨s, rfl⟩ := exists_sign ht
      rw [ofText_eq_sign_iff.mpr rfl]
      rfl
  | false =>
      cases hsign : ofText t with
      | sign s =>
          rw [ofText_eq_sign_iff.mp hsign, isSignText_text] at ht
          cases ht
      | number _ | scale _ | opening | closing | other _ => rfl

theorem map_ofText_signs (run : List Sign) :
    (run.map Sign.text).map ofText = run.map Token.sign := by
  rw [List.map_map]
  exact List.map_congr_left fun s _ => ofText_eq_sign_iff.mpr rfl

theorem text_ofRun (run : List Sign) :
    (Sign.ofRun run).text = if (run.map Sign.text).count "-" % 2 = 1 then "-" else "+" := by
  have hinjective : Function.Injective Sign.text := by
    intro s t h
    have hs : ofText s.text = .sign s := ofText_eq_sign_iff.mpr rfl
    exact Token.sign.inj (hs.symm.trans (ofText_eq_sign_iff.mpr h))
  have hcount : (run.map Sign.text).count "-" = run.count .minus :=
    List.count_map_of_injective run Sign.text hinjective .minus
  rw [hcount, Sign.ofRun_eq_parity]
  split <;> rfl

theorem signOfGap_cons (s : Sign) (run : List Sign) :
    signOfGap ((s :: run).map Sign.text) = [(Sign.ofRun (s :: run)).text] := by
  have hne : (s :: run).map Sign.text ≠ [] := List.cons_ne_nil _ _
  rw [text_ofRun, signOfGap, if_neg hne]

theorem mergedTexts_signs_append (run : List Sign) (h : rest.head?.any isSignText = false) :
    mergedTexts (run.map Sign.text ++ rest) =
      signOfGap (run.map Sign.text) ++ mergedTexts rest := by
  cases run with
  | nil => rfl
  | cons s run =>
      have hlead : leadsWithSign (rest.map ofText) = false := by
        cases rest with
        | nil => rfl
        | cons t rest => exact (isSign_ofText t).trans h
      rw [mergedTexts, List.map_append, map_ofText_signs, mergeSigns_signs_append s run hlead,
        signOfGap_cons]
      rfl

theorem mergedTexts_cons (h : isSignText t = false) (rest : List String) :
    mergedTexts (t :: rest) = t :: mergedTexts rest := by
  rw [mergedTexts, List.map_cons, mergeSigns_cons _ ((isSign_ofText t).trans h), List.map_cons,
    text_ofText]
  rfl

theorem mergedTexts_signs (run : List Sign) :
    mergedTexts (run.map Sign.text) = signOfGap (run.map Sign.text) := by
  have hnone : mergedTexts [] = [] := rfl
  have hrun : mergedTexts (run.map Sign.text ++ []) =
      signOfGap (run.map Sign.text) ++ mergedTexts [] := mergedTexts_signs_append run rfl
  simpa [hnone] using hrun

theorem mergedTexts_gap (run : List Sign) (h : isSignText t = false) (rest : List String) :
    mergedTexts (run.map Sign.text ++ t :: rest) =
      signOfGap (run.map Sign.text) ++ t :: mergedTexts rest := by
  have hlead : (t :: rest).head?.any isSignText = false := h
  rw [mergedTexts_signs_append run hlead, mergedTexts_cons h]

/-- Every list begins with a gap, which another text ends or nothing. -/
theorem exists_gap (texts : List String) :
    ∃ run : List Sign, texts = run.map Sign.text ∨
      ∃ t rest, texts = run.map Sign.text ++ t :: rest ∧ isSignText t = false := by
  induction texts with
  | nil => exact ⟨[], .inl rfl⟩
  | cons t texts ih =>
      cases ht : isSignText t with
      | false => exact ⟨[], .inr ⟨t, texts, rfl, ht⟩⟩
      | true =>
          obtain ⟨s, rfl⟩ := exists_sign ht
          obtain ⟨run, rfl | ⟨u, rest, rfl, hu⟩⟩ := ih
          · exact ⟨s :: run, .inl rfl⟩
          · exact ⟨s :: run, .inr ⟨u, rest, rfl, hu⟩⟩

/-- Goes through a list gap by gap. -/
theorem gap_induction {motive : List String → Prop}
    (last : ∀ run : List Sign, motive (run.map Sign.text))
    (next : ∀ (run : List Sign) (t : String) (rest : List String), isSignText t = false →
      motive rest → motive (run.map Sign.text ++ t :: rest))
    (texts : List String) : motive texts := by
  induction hlength : texts.length using Nat.strongRecOn generalizing texts with
  | ind n ih =>
      obtain ⟨run, rfl | ⟨t, rest, rfl, ht⟩⟩ := exists_gap texts
      · exact last run
      · apply next run t rest ht
        apply ih rest.length _ rest rfl
        simp only [List.length_append, List.length_cons] at hlength
        omega

theorem readPending_signs (run : List Sign) :
    readPending (run.map Sign.text) = .ok (signOfGap (run.map Sign.text)) := by
  cases run with
  | nil => rfl
  | cons s run =>
      have hne : (s :: run).map Sign.text ≠ [] := List.cons_ne_nil _ _
      rw [readPending, if_neg hne, Sign.ofRunText_join, signOfGap_cons]
      rfl

theorem readRuns_signs_append (pending : List String) (run : List Sign) (rest : List String) :
    readRuns pending (run.map Sign.text ++ rest) =
      readRuns (pending ++ run.map Sign.text) rest := by
  induction run generalizing pending with
  | nil => rw [List.map_nil, List.nil_append, List.append_nil]
  | cons s run ih =>
      rw [List.map_cons, List.cons_append, readRuns, if_pos (isSignText_text s), ih,
        List.append_assoc, List.singleton_append]

/-- The reader answers for every list, and with the merged texts. -/
theorem readRuns_eq_ok (texts : List String) : readRuns [] texts = .ok (mergedTexts texts) := by
  induction texts using gap_induction with
  | last run =>
      have hrun := readRuns_signs_append [] run []
      rw [List.append_nil, List.nil_append] at hrun
      rw [hrun, readRuns, readPending_signs, mergedTexts_signs]
  | next run t rest ht ih =>
      rw [readRuns_signs_append, List.nil_append, readRuns, if_neg (Bool.eq_false_iff.mp ht),
        readPending_signs, ih, mergedTexts_gap run ht]
      rfl

theorem signs_of_signOfGap (gap : List String) : ∀ t ∈ signOfGap gap, isSignText t = true := by
  intro t ht
  rw [signOfGap] at ht
  split at ht
  · cases ht
  · rw [List.mem_singleton] at ht
    subst ht
    split <;> rfl

theorem signs_of_run (run : List Sign) : ∀ t ∈ run.map Sign.text, isSignText t = true := by
  intro t ht
  obtain ⟨s, -, rfl⟩ := List.mem_map.mp ht
  exact isSignText_text s

theorem others_signs {front : List String} (h : ∀ t ∈ front, isSignText t = true) :
    front.filter (! isSignText ·) = [] := by
  rw [List.filter_eq_nil_iff]
  intro t ht
  simp [h t ht]

theorem others_append {front : List String} (h : ∀ t ∈ front, isSignText t = true) :
    (front ++ rest).filter (! isSignText ·) = rest.filter (! isSignText ·) := by
  rw [List.filter_append, others_signs h, List.nil_append]

theorem others_mergedTexts (texts : List String) :
    (mergedTexts texts).filter (! isSignText ·) = texts.filter (! isSignText ·) := by
  induction texts using gap_induction with
  | last run =>
      rw [mergedTexts_signs, others_signs (signs_of_signOfGap _), others_signs (signs_of_run run)]
  | next run t rest ht ih =>
      rw [mergedTexts_gap run ht, others_append (signs_of_signOfGap _),
        others_append (signs_of_run run)]
      simp [ht, ih]

theorem gaps_signs {front : List String} (h : ∀ t ∈ front, isSignText t = true) :
    gaps front = [front] :=
  List.splitOnP_eq_singleton fun t ht => congrArg not (h t ht)

theorem gaps_append_cons {front : List String} (h : ∀ t ∈ front, isSignText t = true)
    (ht : isSignText t = false) (rest : List String) :
    gaps (front ++ t :: rest) = front :: gaps rest := by
  have hsplit : gaps (front ++ t :: rest) = gaps front ++ gaps rest :=
    List.splitOnP_append_cons front rest (congrArg not ht)
  rw [hsplit, gaps_signs h, List.singleton_append]

theorem gaps_mergedTexts (texts : List String) :
    gaps (mergedTexts texts) = (gaps texts).map signOfGap := by
  induction texts using gap_induction with
  | last run =>
      rw [mergedTexts_signs, gaps_signs (signs_of_signOfGap _), gaps_signs (signs_of_run run)]
      rfl
  | next run t rest ht ih =>
      rw [mergedTexts_gap run ht, gaps_append_cons (signs_of_signOfGap _) ht, ih,
        gaps_append_cons (signs_of_run run) ht]
      rfl

theorem isChain_signOfGap (gap : List String) (R : String → String → Prop) :
    (signOfGap gap).IsChain R := by
  rw [signOfGap]
  split
  · exact .nil
  · exact .singleton _

theorem isChain_mergedTexts (texts : List String) :
    (mergedTexts texts).IsChain fun a b => ¬ (isSignText a = true ∧ isSignText b = true) := by
  induction texts using gap_induction with
  | last run =>
      rw [mergedTexts_signs]
      exact isChain_signOfGap _ _
  | next run t rest ht ih =>
      have hno : ¬ isSignText t = true := Bool.eq_false_iff.mp ht
      rw [mergedTexts_gap run ht]
      refine List.isChain_append.mpr ⟨isChain_signOfGap _ _, ?_, ?_⟩
      · exact List.isChain_cons.mpr ⟨fun b _ hsigns => hno hsigns.1, ih⟩
      · rintro a - b hb ⟨-, hsign⟩
        obtain rfl := Option.mem_some_iff.mp hb
        exact hno hsign

theorem map_ofText_mergedTexts (texts : List String) :
    (mergedTexts texts).map ofText = mergeSigns (texts.map ofText) := by
  have hread : ∀ t ∈ mergeSigns (texts.map ofText), ofText t.text = t := by
    have hsign : ∀ s : Sign, ofText (Token.sign s).text = .sign s :=
      fun s => ofText_eq_sign_iff.mpr rfl
    refine forall_mem_mergeSigns hsign fun t ht => ?_
    obtain ⟨u, -, rfl⟩ := List.mem_map.mp ht
    rw [text_ofText]
  rw [mergedTexts, List.map_map]
  exact (List.map_congr_left hread).trans (List.map_id _)

/-- What merging makes of a list of arbitrary texts. Every run can be read; the other texts stay,
and in each gap between them stands the one sign that the parity of the hyphens in it tells, if
there was a sign at all. Hence no two signs are neighbours, and merging again, or of merged parts,
changes nothing. -/
theorem runs_amount_to_parity (texts : List String) :
    readRuns [] texts = .ok (mergedTexts texts) ∧
      (mergedTexts texts).filter (! isSignText ·) = texts.filter (! isSignText ·) ∧
      gaps (mergedTexts texts) = (gaps texts).map signOfGap ∧
      (mergedTexts texts).IsChain (fun a b => ¬ (isSignText a = true ∧ isSignText b = true)) ∧
      mergedTexts (mergedTexts texts) = mergedTexts texts ∧
      ∀ more,
        mergedTexts (texts ++ more) = mergedTexts (mergedTexts texts ++ mergedTexts more) := by
  refine ⟨readRuns_eq_ok texts, others_mergedTexts texts, gaps_mergedTexts texts,
    isChain_mergedTexts texts, ?_, fun more => ?_⟩
  · rw [mergedTexts, map_ofText_mergedTexts, mergeSigns_mergeSigns, mergedTexts]
  · rw [mergedTexts, mergedTexts.eq_def (mergedTexts texts ++ mergedTexts more), List.map_append,
      List.map_append, map_ofText_mergedTexts, map_ofText_mergedTexts, mergeSigns_append_merged]

example : mergedTexts ["-", "-", "", "+", "-", "--"] = ["+", "", "-", "--"] := by decide

end Token

end Calculator
