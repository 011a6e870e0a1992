import BuildRunner.Proofs.Text.Trimmed
import BuildRunner.Run.Core

/-!
Verbs and their text. What a text names can be run, and its own text names it again. A verb that can
be run is named by its text, unless it is a custom one whose name has blank space at an end: then the
text names the one without it, or nothing if that looks like a flag (`ofText_text`).
-/

namespace BuildRunner.Verb

open Text (Blank Tight Trimmed)

variable {s name t : String} {v : Verb}

/-! ### Custom names -/

lemma customName?_eq_some_iff : customName? s = some name ↔ s = customMark ++ name := by
  unfold customName?
  constructor
  · intro h
    split at h
    case isTrue hmark =>
      obtain ⟨rest, hrest⟩ := List.isPrefixOf_iff_prefix.1 hmark
      rw [← hrest, List.drop_left, Option.some.injEq] at h
      rw [← String.toList_inj, ← hrest, ← h, String.toList_append, String.toList_ofList]
    case isFalse => cases h
  · rintro rfl
    have hmark : customMark.toList.isPrefixOf (customMark ++ name).toList = true := by
      rw [List.isPrefixOf_iff_prefix, String.toList_append]
      exact List.prefix_append _ _
    rw [if_pos hmark, String.toList_append, List.drop_left, String.ofList_toList]

/-- A name that is not blank and has no blank space at its ends can be run unless it looks like a
flag. -/
lemma fault?_custom (h : Tight t.toList) (hne : t ≠ "") :
    (custom t).fault? = if t.toList.head? = some '-' then some (.flagLike t) else none := by
  have hblank : Text.isBlankText t = false := by
    obtain ⟨c, cs, hcs⟩ := List.exists_cons_of_ne_nil (show t.toList ≠ [] by simpa using hne)
    have hc : Text.isBlank c = false := h.1 c (by rw [hcs]; rfl)
    rw [Text.isBlankText, hcs, List.all_cons, hc, Bool.false_and]
  simp only [fault?, hblank, Bool.false_eq_true, if_false]

lemma not_blank_of_fault? (h : (custom name).fault? = none) : ¬ Blank name.toList := by
  intro hblank
  have hall : Text.isBlankText name = true := List.all_eq_true.2 hblank
  simp [fault?, hall] at h

/-- **The text of a custom verb** names the custom verb without the blank space around its name,
unless that looks like a flag. -/
lemma ofText_text_custom (h : Trimmed name.toList t.toList) (hne : t ≠ "") :
    ofText (custom name).text =
      if t.toList.head? = some '-' then .error (.flagLike t) else .ok (custom t) := by
  obtain ⟨htight, u, w, hu, hw, hname⟩ := id h
  have htne : t.toList ≠ [] := by simpa using hne
  -- The mark keeps the blank space in front of the name, so this is trimmed in the second step.
  have htext : Text.trim (custom name).text = customMark ++ String.ofList (u ++ t.toList) := by
    have htrimmed : Trimmed (custom name).text.toList (customMark.toList ++ (u ++ t.toList)) := by
      refine ⟨⟨fun c hc => ?_, fun c hc => ?_⟩, [], w, by simp [Blank], hw, ?_⟩
      · have hc : c = 'c' := (Option.some.inj hc).symm
        rw [hc]
        decide
      · rw [List.getLast?_append_of_ne_nil _ (by simp [htne]),
          List.getLast?_append_of_ne_nil _ htne] at hc
        exact htight.2 c hc
      · show (customMark ++ name).toList = _
        rw [String.toList_append, hname]
        simp only [List.nil_append, List.append_assoc]
    rw [Text.trim, Text.trimmed_iff.1 htrimmed, String.ofList_append, String.ofList_toList]
  have hagain : Text.trim (String.ofList (u ++ t.toList)) = t := by
    have htrimmed : Trimmed (u ++ t.toList) t.toList :=
      ⟨htight, u, [], hu, by simp [Blank], (List.append_nil _).symm⟩
    rw [Text.trim, String.toList_ofList, Text.trimmed_iff.1 htrimmed, String.ofList_toList]
  simp only [ofText, htext, customName?_eq_some_iff.2 rfl, hagain, fault?_custom htight hne]
  split <;> simp_all

/-! ### Fixed names -/

/-- A name in the table names a fixed verb. -/
lemma fixed_of_named? (h : named? s = some v) : ∀ name, v ≠ custom name := by
  unfold named? at h
  split at h <;> cases h <;> exact fun _ => Verb.noConfusion

lemma fault?_of_fixed (h : ∀ name, v ≠ custom name) : v.fault? = none := by
  cases v <;> first | rfl | exact absurd rfl (h _)

/-- **The text of a fixed verb** names it. -/
lemma ofText_text_of_fixed (h : ∀ name, v ≠ custom name) : ofText v.text = .ok v := by
  cases v
  case custom name => exact absurd rfl (h name)
  all_goals rfl

/-! ### Texts that name a verb -/

/-- A text names a fixed verb, or a custom one without blank space at the ends of its name. -/
lemma named_of_ofText (h : ofText s = .ok v) :
    v.fault? = none ∧ ((∀ name, v ≠ custom name) ∨ ∃ name, v = custom name ∧ Tight name.toList) := by
  unfold ofText at h
  dsimp only at h
  split at h
  · split at h
    · cases h
    case h_2 hfault =>
      obtain rfl := Except.ok.inj h
      refine ⟨hfault, .inr ⟨_, rfl, ?_⟩⟩
      rw [Text.trim, String.toList_ofList]
      exact Text.tight_trimChars _
  · split at h
    case h_1 hnamed =>
      obtain rfl := Except.ok.inj h
      have hfixed := fixed_of_named? hnamed
      exact ⟨fault?_of_fixed hfixed, .inl hfixed⟩
    · cases h

/-- A custom verb that can be run is named by its text, up to the blank space around its name. -/
lemma exists_trimmed_name (h : (custom name).fault? = none) :
    ∃ t : String, Trimmed name.toList t.toList ∧
      ofText (custom name).text =
        if t.toList.head? = some '-' then .error (.flagLike t) else .ok (custom t) := by
  have htrimmed : Trimmed name.toList (Text.trim name).toList := by
    rw [Text.trim, String.toList_ofList]
    exact Text.trimmed_iff.2 rfl
  have hne : Text.trim name ≠ "" := by
    intro hempty
    rw [hempty] at htrimmed
    obtain ⟨-, u, w, hu, hw, hname⟩ := htrimmed
    refine not_blank_of_fault? h ?_
    rw [hname]
    exact (hu.append (by simp [Blank])).append hw
  exact ⟨_, htrimmed, ofText_text_custom htrimmed hne⟩

/-- A verb that can be run is named by its text, if it has no blank space at the ends of a name. -/
lemma ofText_text_of_tight (h : v.fault? = none)
    (htight : ∀ name, v = custom name → Tight name.toList) : ofText v.text = .ok v := by
  by_cases hfixed : ∀ name, v ≠ custom name
  · exact ofText_text_of_fixed hfixed
  · push Not at hfixed
    obtain ⟨name, rfl⟩ := hfixed
    have htight := htight name rfl
    have hne : name ≠ "" := by
      rintro rfl
      exact not_blank_of_fault? h (by simp [Blank])
    have hflag : ¬ name.toList.head? = some '-' := by
      intro hflag
      rw [fault?_custom htight hne, if_pos hflag] at h
      cases h
    rw [ofText_text_custom htight.trimmed hne, if_neg hflag]

/-- A request for a verb that can be run is not rejected when it comes in. -/
lemma not_rejected (h : v.fault? = none) (core : Core) (args : List String) (force : Bool)
    (reason : String) :
    .announceRejected reason ∉ (core.step (.runRequested ⟨v, args, force⟩)).actions := by
  obtain ⟨slot, nextTask, format, echoRendered⟩ := core
  cases slot <;> cases force <;> simp [Core.step, Core.onRunRequested, h, Core.begin]

/-- **Verbs and their text.** What a text names can be run, so a request for it is not rejected; its
own text names it again. Blank space around a text makes no difference. A verb that can be run is
named by its text, unless it is a custom one with blank space at an end of its name; its text then
names the custom verb without it, or nothing if what is left looks like a flag. -/
theorem ofText_text :
    (∀ s v, ofText s = .ok v → v.fault? = none ∧ ofText v.text = .ok v ∧
      ∀ (core : Core) args force reason,
        .announceRejected reason ∉ (core.step (.runRequested ⟨v, args, force⟩)).actions) ∧
    (∀ s before behind : String, Blank before.toList → Blank behind.toList →
      ofText (before ++ s ++ behind) = ofText s) ∧
    (∀ v : Verb, v.fault? = none → (∀ name, v = custom name → Tight name.toList) →
      ofText v.text = .ok v) ∧
    ∀ name, (custom name).fault? = none → ∃ t : String, Trimmed name.toList t.toList ∧
      ofText (custom name).text =
        if t.toList.head? = some '-' then .error (.flagLike t) else .ok (custom t) := by
  refine ⟨fun s v h => ?_, fun s before behind hbefore hbehind => ?_, fun v => ofText_text_of_tight,
    fun name h => ?_⟩
  · obtain ⟨hfault, hnamed⟩ := named_of_ofText h
    refine ⟨hfault, ofText_text_of_tight hfault fun name heq => ?_, not_rejected hfault⟩
    rcases hnamed with hfixed | ⟨name', heq', htight⟩
    · exact absurd heq (hfixed name)
    · rw [heq, custom.injEq] at heq'
      rwa [heq']
  · have htrim : Text.trim (before ++ s ++ behind) = Text.trim s := by
      rw [Text.trim, String.toList_append, String.toList_append,
        Text.trimChars_append hbefore hbehind, ← Text.trim]
    rw [ofText, ofText, htrim]
  · exact exists_trimmed_name h

/-- A custom verb in a text with wide blank space around it, and one with a flag behind a space as
its name. -/
theorem ofText_text_padded :
    ofText "\u3000custom: custom:y\u00a0" = .ok (custom "custom:y") ∧
    ofText (custom "custom:y").text = .ok (custom "custom:y") ∧
    ofText ("\t" ++ "CLIPPY" ++ "\n") = ofText "CLIPPY" ∧
    (custom " -z").fault? = none ∧ ofText (custom " -z").text = .error (.flagLike "-z") := by
  obtain ⟨hagain, haround, -, hcustom⟩ := ofText_text
  have hnamed : ofText "\u3000custom: custom:y\u00a0" = .ok (custom "custom:y") := by
    decide +kernel
  have hfault : (custom " -z").fault? = none := by decide
  refine ⟨hnamed, (hagain _ _ hnamed).2.1,
    haround "CLIPPY" "\t" "\n" (List.all_eq_true.1 rfl) (List.all_eq_true.1 rfl), hfault, ?_⟩
  obtain ⟨t, htrimmed, htext⟩ := hcustom " -z" hfault
  have ht : t = "-z" := by
    rw [← String.toList_inj, ← Text.trimmed_iff.1 htrimmed]
    decide
  rw [htext, ht]
  decide

end BuildRunner.Verb
