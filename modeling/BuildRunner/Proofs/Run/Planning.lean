import BuildRunner.Run.Planning
import Mathlib.Tactic.Common

/-!
Plans made beside one another. Whatever the order in which they are gone on with and however the tool
answers, it is asked each question once, and all the plans that hang on the answer go by it. A plan
differs from the one that is made without asking in nothing but its subcommand, and in that only
where the tool said no.
-/

namespace BuildRunner

/-- The invocation with another subcommand. -/
def Invocation.runAs (i : Invocation) (subcommand : String) : Invocation :=
  { i with command := { i.command with args := subcommand :: i.command.args.tail } }

namespace Planner

variable {p p' : Planner} {request : Request} {rule : ProbeRule} {cwd : Path}

/-! ### One planner -/

@[simp] lemma answer?_learn (p : Planner) (q q' : Question) (supported : Bool) :
    (p.learn q supported).answer? q' = if q = q' then some supported else p.answer? q' := by
  unfold learn answer?
  rw [List.find?_cons]
  by_cases h : q = q' <;> simp [h]

lemma question_inj {rule' : ProbeRule} :
    p.question rule = p.question rule' ↔ rule.args = rule'.args := by
  simp [question]

/-- The plan made without asking depends on nothing that is asked. -/
lemma planUnprobed_congr (hexecutable : p.executable = p'.executable) (hargs : p.args = p'.args)
    (request : Request) (cwd : Path) : p.planUnprobed request cwd = p'.planUnprobed request cwd := by
  simp [planUnprobed, invocation, hexecutable, hargs]

/-- A plan under an answer is the one made without asking, unless the answer was no. -/
lemma under_eq (p : Planner) (rule : ProbeRule) (supported : Bool) (request : Request) (cwd : Path) :
    p.under rule supported request cwd = if supported then p.planUnprobed request cwd
      else (p.planUnprobed request cwd).runAs rule.fallback := by
  cases supported <;> rfl

lemma consult_eq_settled {i : Invocation} (h : p.consult request cwd = .settled i) :
    (request.verb.probe = none ∧ i = p.planUnprobed request cwd) ∨
      ∃ rule supported, request.verb.probe = some rule ∧
        p.answer? (p.question rule) = some supported ∧ i = p.under rule supported request cwd := by
  unfold consult at h
  split at h
  case h_1 hprobe =>
    obtain rfl := Consultation.settled.inj h
    exact .inl ⟨hprobe, rfl⟩
  case h_2 rule hprobe =>
    split at h
    case h_1 supported hanswer =>
      obtain rfl := Consultation.settled.inj h
      exact .inr ⟨rule, supported, hprobe, hanswer, rfl⟩
    case h_2 => cases h

lemma consult_eq_probing (h : p.consult request cwd = .probing rule) :
    request.verb.probe = some rule ∧ p.answer? (p.question rule) = none := by
  unfold consult at h
  split at h
  case h_1 => cases h
  case h_2 rule' hprobe =>
    split at h
    case h_1 => cases h
    case h_2 hanswer =>
      obtain rfl := Consultation.probing.inj h
      exact ⟨hprobe, hanswer⟩

/-- What is run where the tool lacks a subcommand is another one. -/
lemma fallback_ne {verb : Verb} (h : verb.probe = some rule) : verb.subcommand ≠ rule.fallback := by
  cases verb <;> simp only [Verb.probe, Option.some.injEq, reduceCtorEq] at h <;> subst h <;>
    simp [Verb.subcommand]

end Planner

namespace Planning

/-! ### What is seen of a run -/

/-- The plan that is asked for, if that is what happens. -/
def Move.call? : Move → Option (Request × Path)
  | .call request cwd => some (request, cwd)
  | _ => none

/-- The probe that was started, if that is what is reported. -/
def Report.probe? : Report → Option Command
  | .asked _ probe => some probe
  | _ => none

/-- The probes that were started, in order. -/
def probes (t : List Report) : List Command := t.filterMap Report.probe?

/-- The tool answered a probe with these arguments. -/
def Answered (t : List Report) (args : List String) (supported : Bool) : Prop :=
  ∃ probe, .answered probe supported ∈ t ∧ probe.args = args

section View

variable {t t' : List Report}

@[simp] lemma probes_nil : probes [] = [] := rfl

@[simp] lemma probes_asked (number : Nat) (probe : Command) (t : List Report) :
    probes (.asked number probe :: t) = probe :: probes t := rfl

@[simp] lemma probes_answered (probe : Command) (supported : Bool) (t : List Report) :
    probes (.answered probe supported :: t) = probes t := rfl

@[simp] lemma probes_made (number : Nat) (i : Invocation) (t : List Report) :
    probes (.made number i :: t) = probes t := rfl

@[simp] lemma probes_append (t t' : List Report) : probes (t ++ t') = probes t ++ probes t' :=
  List.filterMap_append

lemma answered_append {args : List String} {supported : Bool} :
    Answered (t ++ t') args supported ↔ Answered t args supported ∨ Answered t' args supported := by
  simp [Answered, or_and_right, exists_or]

lemma answered_append_asked (t : List Report) (number : Nat) (probe : Command) {args : List String}
    {supported : Bool} : Answered (t ++ [.asked number probe]) args supported ↔
      Answered t args supported := by
  simp [Answered]

lemma answered_append_made (t : List Report) (number : Nat) (i : Invocation) {args : List String}
    {supported : Bool} : Answered (t ++ [.made number i]) args supported ↔
      Answered t args supported := by
  simp [Answered]

/-- The reports of an answer tell of that answer alone. -/
lemma answered_learn {probe : Command} {supported : Bool} {number : Nat} {i : Invocation}
    {args : List String} {answer : Bool} :
    Answered [.answered probe supported, .made number i] args answer ↔
      probe.args = args ∧ answer = supported := by
  simp [Answered, and_comm]

end View

/-- **What a report says is right**: a probe is the one of a plan that was asked for, and a plan that
is made is the one made without asking, but for the subcommand where the tool said no. -/
def Report.Sound (p : Planner) (calls : List (Request × Path)) (t : List Report) : Report → Prop
  | .asked number probe => ∃ request cwd rule, calls[number]? = some (request, cwd) ∧
      request.verb.probe = some rule ∧ probe = p.probe rule cwd
  | .answered _ _ => True
  | .made number i => ∃ request cwd, calls[number]? = some (request, cwd) ∧
      (request.verb.probe = none ∧ i = p.planUnprobed request cwd ∨
        ∃ rule supported, request.verb.probe = some rule ∧ Answered t rule.args supported ∧
          i = p.under rule supported request cwd)

lemma Report.Sound.mono {p : Planner} {calls : List (Request × Path)} {t : List Report} {r : Report}
    (h : r.Sound p calls t) (calls' : List (Request × Path)) (t' : List Report) :
    r.Sound p (calls ++ calls') (t ++ t') := by
  have hcall {number : Nat} {c : Request × Path} (hc : calls[number]? = some c) :
      (calls ++ calls')[number]? = some c := by
    rw [List.getElem?_append_left (List.getElem?_eq_some_iff.1 hc).1, hc]
  cases r with
  | asked number probe =>
    obtain ⟨request, cwd, rule, hc, hrest⟩ := h
    exact ⟨request, cwd, rule, hcall hc, hrest⟩
  | answered => trivial
  | made number i =>
    obtain ⟨request, cwd, hc, hi⟩ := h
    refine ⟨request, cwd, hcall hc, hi.imp_right ?_⟩
    rintro ⟨rule, supported, hprobe, hanswered, heq⟩
    exact ⟨rule, supported, hprobe, answered_append.2 (.inl hanswered), heq⟩

/-! ### The rules -/

/-- **What a step can do**, one rule for each kind of change. -/
inductive Rule (s : Planning) : Move → Planning → List Report → Prop where
  | called (request : Request) (cwd : Path) :
    Rule s (.call request cwd) { s with calls := s.calls ++ [⟨request, cwd, none⟩] } []
  | ignored {m : Move} (h : m.call? = none) : Rule s m s []
  | settled {number : Nat} {call : PlanCall} {i : Invocation}
    (called : s.calls[number]? = some call)
    (free : call.request.verb.probe = none ∨ s.asking = none)
    (h : s.planner.consult call.request call.cwd = .settled i) :
    Rule s (.proceed number) (s.finish number call i) [.made number i]
  | asks {number : Nat} {call : PlanCall} {rule : ProbeRule}
    (called : s.calls[number]? = some call) (unmade : call.result = none) (free : s.asking = none)
    (h : s.planner.consult call.request call.cwd = .probing rule) :
    Rule s (.proceed number)
      { s with asking := some ⟨number, call.request, call.cwd, rule⟩ }
      [.asked number (s.planner.probe rule call.cwd)]
  | learns {a : Asking} (supported : Bool) (h : s.asking = some a) :
    Rule s (.answer supported)
      { planner := s.planner.learn (s.planner.question a.rule) supported
        calls := s.calls.set a.number ⟨a.request, a.cwd,
          some (s.planner.under a.rule supported a.request a.cwd)⟩
        asking := none }
      [.answered (s.planner.probe a.rule a.cwd) supported,
        .made a.number (s.planner.under a.rule supported a.request a.cwd)]

/-- Every step follows one of the rules. -/
theorem rule_step (s : Planning) (m : Move) : Rule s m (s.step m).1 (s.step m).2 := by
  cases m with
  | call request cwd => exact .called request cwd
  | proceed number =>
    simp only [step]
    split
    case h_1 => exact .ignored rfl
    case h_2 call hcall =>
      split
      case isTrue => exact .ignored rfl
      case isFalse hfree =>
        simp only [Bool.or_eq_true, Bool.and_eq_true, Option.isSome_iff_ne_none, ne_eq, not_or,
          not_and, not_not] at hfree
        unfold consult
        rcases h : s.planner.consult call.request call.cwd with i | rule
        · refine .settled hcall ?_ h
          by_cases hprobe : call.request.verb.probe = none
          · exact .inl hprobe
          · exact .inr (hfree.2 hprobe)
        · have hprobe := (Planner.consult_eq_probing h).1
          exact .asks hcall hfree.1 (hfree.2 (by simp [hprobe])) h
  | answer supported =>
    simp only [step]
    split
    case h_1 => exact .ignored rfl
    case h_2 a ha => exact .learns supported ha

/-! ### What a run keeps -/

/-- **What is known behind a run**: what the planner knows is what the tool has answered; the plan
that holds the answers waits for one that is not known; no question was asked twice; and every
report is right. -/
structure Kept (p : Planner) (asked : List (Request × Path)) (s : Planning) (t : List Report) :
    Prop where
  executable_eq : s.planner.executable = p.executable
  args_eq : s.planner.args = p.args
  calls_eq : s.calls.map (fun c => (c.request, c.cwd)) = asked
  known : ∀ rule supported, s.planner.answer? (s.planner.question rule) = some supported ↔
    Answered t rule.args supported
  asking : ∀ {a}, s.asking = some a → s.calls[a.number]? = some ⟨a.request, a.cwd, none⟩ ∧
    a.request.verb.probe = some a.rule ∧ s.planner.answer? (s.planner.question a.rule) = none
  pending : ∀ probe ∈ probes t, (∃ supported, Answered t probe.args supported) ∨
    ∃ a, s.asking = some a ∧ a.rule.args = probe.args
  once : ((probes t).map (·.args)).Nodup
  sound : ∀ r ∈ t, r.Sound p asked t
  results : ∀ {number call i}, s.calls[number]? = some call → call.result = some i →
    .made number i ∈ t

lemma kept_new (executable : String) (args : ArgLists) :
    Kept (.new executable args) [] (new executable args) [] := by
  refine ⟨rfl, rfl, rfl, ?_, by simp [new], by simp, by simp, by simp, ?_⟩
  · intro rule supported
    simp [new, Planner.new, Planner.answer?, Answered]
  · intro number call i hcall
    simp [new] at hcall

namespace Kept

variable {p : Planner} {asked : List (Request × Path)} {s s' : Planning} {t ts : List Report}

lemma call_eq (h : Kept p asked s t) {number : Nat} {call : PlanCall}
    (hcall : s.calls[number]? = some call) : asked[number]? = some (call.request, call.cwd) := by
  rw [← h.calls_eq, List.getElem?_map, hcall]
  rfl

lemma planUnprobed_eq (h : Kept p asked s t) (request : Request) (cwd : Path) :
    s.planner.planUnprobed request cwd = p.planUnprobed request cwd :=
  Planner.planUnprobed_congr h.executable_eq h.args_eq request cwd

lemma under_eq (h : Kept p asked s t) (rule : ProbeRule) (supported : Bool) (request : Request)
    (cwd : Path) : s.planner.under rule supported request cwd = p.under rule supported request cwd := by
  rw [Planner.under_eq, Planner.under_eq, h.planUnprobed_eq]

lemma probe_eq (h : Kept p asked s t) (rule : ProbeRule) (cwd : Path) :
    s.planner.probe rule cwd = p.probe rule cwd := by
  simp [Planner.probe, h.executable_eq]

lemma calls_set (h : Kept p asked s t) {number : Nat} {call : PlanCall}
    (hcall : s.calls[number]? = some call) (result : Option Invocation) :
    (s.calls.set number { call with result }).map (fun c => (c.request, c.cwd)) = asked := by
  rw [← h.calls_eq, List.map_set]
  refine List.ext_getElem? fun k => ?_
  rw [List.getElem?_set]
  split
  case isTrue hk =>
    subst hk
    rw [List.getElem?_map, hcall]
    simp [(List.getElem?_eq_some_iff.1 hcall).1]
  case isFalse => rfl

/-- A question that is put to the tool has not been put to it before. -/
lemma notMem_probes (h : Kept p asked s t) (hfree : s.asking = none) {rule : ProbeRule}
    (hunknown : s.planner.answer? (s.planner.question rule) = none) :
    rule.args ∉ (probes t).map (·.args) := by
  intro hmem
  obtain ⟨probe, hprobe, hargs⟩ := List.mem_map.1 hmem
  rcases h.pending probe hprobe with ⟨supported, hanswered⟩ | ⟨a, ha, -⟩
  · have hanswer := (h.known rule supported).2 (hargs ▸ hanswered)
    simp [hunknown] at hanswer
  · simp [hfree] at ha

lemma sound_append (h : Kept p asked s t) (hnew : ∀ r ∈ ts, r.Sound p asked (t ++ ts)) :
    ∀ r ∈ t ++ ts, r.Sound p asked (t ++ ts) := by
  intro r hr
  rcases List.mem_append.1 hr with hr | hr
  · simpa using (h.sound r hr).mono [] ts
  · exact hnew r hr

/-- A plan that is written down as made has been reported. -/
lemma results_set (h : Kept p asked s t) (number : Nat) (call : PlanCall) (i : Invocation)
    (hmade : .made number i ∈ ts) {number' : Nat} {call' : PlanCall} {i' : Invocation}
    (hcall : (s.calls.set number { call with result := some i })[number']? = some call')
    (hresult : call'.result = some i') : .made number' i' ∈ t ++ ts := by
  rw [List.getElem?_set] at hcall
  split at hcall
  case isTrue hk =>
    subst hk
    split at hcall
    · obtain rfl := Option.some.inj hcall
      obtain rfl := Option.some.inj hresult
      exact List.mem_append_right _ hmade
    · cases hcall
  case isFalse => exact List.mem_append_left _ (h.results hcall hresult)

/-! ### The rules keep it -/

/-- One plan more is asked for. -/
theorem called (h : Kept p asked s t) (request : Request) (cwd : Path) :
    Kept p (asked ++ [(request, cwd)]) { s with calls := s.calls ++ [⟨request, cwd, none⟩] } t where
  executable_eq := h.executable_eq
  args_eq := h.args_eq
  calls_eq := by simp [h.calls_eq]
  known := h.known
  asking := by
    intro a ha
    obtain ⟨hcall, hrest⟩ := h.asking ha
    refine ⟨?_, hrest⟩
    rw [List.getElem?_append_left (List.getElem?_eq_some_iff.1 hcall).1, hcall]
  pending := h.pending
  once := h.once
  sound := by
    intro r hr
    simpa using (h.sound r hr).mono [(request, cwd)] []
  results := by
    intro number call i hcall hresult
    rw [List.getElem?_append] at hcall
    split at hcall
    case isTrue => exact h.results hcall hresult
    case isFalse =>
      obtain rfl := List.eq_of_mem_singleton (List.mem_of_getElem? hcall)
      cases hresult

/-- A plan is made without asking, or with an answer that is known. -/
theorem settled (h : Kept p asked s t) {number : Nat} {call : PlanCall} {i : Invocation}
    (hcall : s.calls[number]? = some call)
    (hfree : call.request.verb.probe = none ∨ s.asking = none)
    (hconsult : s.planner.consult call.request call.cwd = .settled i) :
    Kept p asked (s.finish number call i) (t ++ [.made number i]) where
  executable_eq := h.executable_eq
  args_eq := h.args_eq
  calls_eq := h.calls_set hcall _
  known := by
    intro rule supported
    exact (h.known rule supported).trans (answered_append_made t number i).symm
  asking := by
    intro a ha
    obtain ⟨hasking, hprobe, hunknown⟩ := h.asking ha
    have hne : number ≠ a.number := by
      -- The plan that holds the answers has a question, and this one does not wait for it.
      rintro rfl
      obtain rfl := Option.some.inj (hcall.symm.trans hasking)
      rcases hfree with hnone | hnone
      · simp [hnone] at hprobe
      · exact absurd (hnone.symm.trans ha) (by simp)
    exact ⟨(List.getElem?_set_ne hne).trans hasking, hprobe, hunknown⟩
  pending := by
    intro probe hmem
    simp only [probes_append, probes_made, probes_nil, List.append_nil] at hmem
    refine (h.pending probe hmem).imp_left fun ⟨supported, hanswered⟩ => ?_
    exact ⟨supported, answered_append.2 (.inl hanswered)⟩
  once := by simpa using h.once
  sound := by
    refine h.sound_append fun r hr => ?_
    obtain rfl := List.eq_of_mem_singleton hr
    refine ⟨call.request, call.cwd, h.call_eq hcall, ?_⟩
    rcases Planner.consult_eq_settled hconsult with ⟨hnone, rfl⟩ | ⟨rule, supported, hsome, hanswer, rfl⟩
    · exact .inl ⟨hnone, h.planUnprobed_eq _ _⟩
    · have hanswered := (h.known rule supported).1 hanswer
      exact .inr ⟨rule, supported, hsome, answered_append.2 (.inl hanswered),
        h.under_eq rule supported _ _⟩
  results := h.results_set number call i (by simp)

/-- A question is put to the tool. -/
theorem asks (h : Kept p asked s t) {number : Nat} {call : PlanCall} {rule : ProbeRule}
    (hcall : s.calls[number]? = some call) (hunmade : call.result = none) (hfree : s.asking = none)
    (hconsult : s.planner.consult call.request call.cwd = .probing rule) :
    Kept p asked { s with asking := some ⟨number, call.request, call.cwd, rule⟩ }
      (t ++ [.asked number (s.planner.probe rule call.cwd)]) where
  executable_eq := h.executable_eq
  args_eq := h.args_eq
  calls_eq := h.calls_eq
  known := by
    intro rule' supported
    exact (h.known rule' supported).trans (answered_append_asked t number _).symm
  asking := by
    intro a ha
    obtain rfl := Option.some.inj ha
    refine ⟨hcall.trans ?_, Planner.consult_eq_probing hconsult⟩
    rw [← hunmade]
  pending := by
    intro probe hmem
    rw [probes_append, List.mem_append] at hmem
    rcases hmem with hmem | hmem
    · rcases h.pending probe hmem with ⟨supported, hanswered⟩ | ⟨a, ha, -⟩
      · exact .inl ⟨supported, answered_append.2 (.inl hanswered)⟩
      · exact absurd (hfree.symm.trans ha) (by simp)
    · obtain rfl := List.eq_of_mem_singleton hmem
      exact .inr ⟨_, rfl, rfl⟩
  once := by
    rw [probes_append, List.map_append, List.nodup_append]
    refine ⟨h.once, by simp, fun args hargs args' hargs' => ?_⟩
    obtain rfl : args' = rule.args := List.eq_of_mem_singleton hargs'
    rintro rfl
    exact h.notMem_probes hfree (Planner.consult_eq_probing hconsult).2 hargs
  sound := by
    refine h.sound_append fun r hr => ?_
    obtain rfl := List.eq_of_mem_singleton hr
    exact ⟨call.request, call.cwd, rule, h.call_eq hcall, (Planner.consult_eq_probing hconsult).1,
      h.probe_eq rule call.cwd⟩
  results := by
    intro number' call' i hcall' hresult
    exact List.mem_append_left _ (h.results hcall' hresult)

/-- The tool answers, and the plan that asked is made. -/
theorem learns (h : Kept p asked s t) {a : Asking} (supported : Bool) (ha : s.asking = some a) :
    Kept p asked
      { planner := s.planner.learn (s.planner.question a.rule) supported
        calls := s.calls.set a.number ⟨a.request, a.cwd,
          some (s.planner.under a.rule supported a.request a.cwd)⟩
        asking := none }
      (t ++ [.answered (s.planner.probe a.rule a.cwd) supported,
        .made a.number (s.planner.under a.rule supported a.request a.cwd)]) where
  executable_eq := h.executable_eq
  args_eq := h.args_eq
  calls_eq := h.calls_set (h.asking ha).1 _
  known := by
    intro rule answer
    have hquestion : (s.planner.learn (s.planner.question a.rule) supported).question rule =
        s.planner.question rule := rfl
    rw [hquestion, Planner.answer?_learn, answered_append, ← h.known, answered_learn]
    by_cases hargs : a.rule.args = rule.args
    · have hsame : s.planner.question a.rule = s.planner.question rule := Planner.question_inj.2 hargs
      rw [if_pos hsame, ← hsame, (h.asking ha).2.2]
      simp [Planner.probe, hargs, eq_comm]
    · have hother : s.planner.question a.rule ≠ s.planner.question rule :=
        mt Planner.question_inj.1 hargs
      simp [Planner.probe, hargs, hother]
  asking := by simp
  pending := by
    intro probe hmem
    simp only [probes_append, probes_answered, probes_made, probes_nil, List.append_nil] at hmem
    left
    rcases h.pending probe hmem with ⟨answer, hanswered⟩ | ⟨a', ha', hargs⟩
    · exact ⟨answer, answered_append.2 (.inl hanswered)⟩
    · obtain rfl := Option.some.inj (ha.symm.trans ha')
      exact ⟨supported, answered_append.2 (.inr (answered_learn.2 ⟨hargs, rfl⟩))⟩
  once := by simpa using h.once
  sound := by
    obtain ⟨hcall, hprobe, -⟩ := h.asking ha
    refine h.sound_append fun r hr => ?_
    simp only [List.mem_cons, List.not_mem_nil, or_false] at hr
    rcases hr with rfl | rfl
    · trivial
    · refine ⟨a.request, a.cwd, h.call_eq hcall, .inr ⟨a.rule, supported, hprobe, ?_, ?_⟩⟩
      · exact answered_append.2 (.inr (answered_learn.2 ⟨rfl, rfl⟩))
      · exact h.under_eq a.rule supported a.request a.cwd
  results := h.results_set a.number ⟨a.request, a.cwd, none⟩ _ (by simp)

/-- **A step keeps what is known behind a run.** -/
theorem step (h : Kept p asked s t) (m : Move) :
    Kept p (asked ++ m.call?.toList) (s.step m).1 (t ++ (s.step m).2) := by
  have hrule := rule_step s m
  generalize (s.step m).1 = s', (s.step m).2 = ts at hrule
  cases hrule with
  | called request cwd => simpa [Move.call?] using h.called request cwd
  | ignored hm => simpa [hm] using h
  | settled hcall hfree hconsult => simpa [Move.call?] using h.settled hcall hfree hconsult
  | asks hcall hunmade hfree hconsult => simpa [Move.call?] using h.asks hcall hunmade hfree hconsult
  | learns supported ha => simpa [Move.call?] using h.learns supported ha

end Kept

/-- What is known behind a run is known behind every longer one. -/
theorem kept_run {p : Planner} {asked : List (Request × Path)} {s : Planning} {t : List Report}
    (h : Kept p asked s t) (moves : List Move) :
    Kept p (asked ++ moves.filterMap Move.call?) (s.run moves).1 (t ++ (s.run moves).2) := by
  induction moves generalizing asked s t with
  | nil => simpa [run] using h
  | cons m ms ih =>
    have hnext := ih (h.step m)
    rw [List.append_assoc, List.append_assoc] at hnext
    have hcalls : (m :: ms).filterMap Move.call? = m.call?.toList ++ ms.filterMap Move.call? := by
      cases hm : m.call? <;> simp [hm]
    rw [hcalls]
    exact hnext

lemma run_append (s : Planning) (ms ms' : List Move) :
    s.run (ms ++ ms') = (((s.run ms).1.run ms').1, (s.run ms).2 ++ ((s.run ms).1.run ms').2) := by
  induction ms generalizing s with
  | nil => rfl
  | cons m ms ih => simp [run, ih, List.append_assoc]

/-! ### Every plan comes to an end -/

/-- Once the tool has answered, nothing holds the answers. -/
lemma asking_answer (s : Planning) (supported : Bool) : (s.step (.answer supported)).1.asking = none := by
  simp only [step]
  split
  case h_1 hnone => exact hnone
  case h_2 => rfl

/-- A plan that is gone on with while nothing holds the answers is made by the next answer. -/
lemma made_of_free {s : Planning} (hfree : s.asking = none) {number : Nat} {call : PlanCall}
    (hcall : s.calls[number]? = some call) (hunmade : call.result = none) (supported : Bool) :
    ∃ i, .made number i ∈ (s.run [.proceed number, .answer supported]).2 := by
  have hproceed : s.step (.proceed number) = s.consult number call := by
    simp [step, hcall, hunmade, hfree]
  simp only [run, hproceed, List.append_nil, List.mem_append]
  unfold consult
  cases s.planner.consult call.request call.cwd with
  | settled i => exact ⟨i, .inl (by simp)⟩
  | probing rule => exact ⟨s.planner.under rule supported call.request call.cwd, .inr (by simp [step])⟩

/-- **No plan waits forever**: with an answer to the question that is with the tool and one to its
own, whatever they are, a plan is made. -/
lemma Kept.made {p : Planner} {asked : List (Request × Path)} {s : Planning} {t : List Report}
    (h : Kept p asked s t) {number : Nat} (hnumber : number < asked.length) (supported : Bool) :
    ∃ i, .made number i ∈ t ++ (s.run [.answer supported, .proceed number, .answer supported]).2 := by
  have hnext := h.step (.answer supported)
  set u := s.step (.answer supported)
  obtain ⟨call, hcall⟩ : ∃ call, u.1.calls[number]? = some call := by
    have hlength := congrArg List.length hnext.calls_eq
    simp only [List.length_map, List.length_append] at hlength
    exact ⟨_, List.getElem?_eq_getElem (by omega)⟩
  have hrun : (s.run [.answer supported, .proceed number, .answer supported]).2 =
      u.2 ++ (u.1.run [.proceed number, .answer supported]).2 := rfl
  rw [hrun, ← List.append_assoc]
  cases hresult : call.result with
  | some i => exact ⟨i, List.mem_append_left _ (hnext.results hcall hresult)⟩
  | none =>
    obtain ⟨i, hi⟩ := made_of_free (asking_answer s supported) hcall hresult supported
    exact ⟨i, List.mem_append_right _ hi⟩

/-! ### One question, one answer -/

/-- **The tool is asked once.** Plans are asked for and gone on with in any order, and the tool answers
as it likes. No question is put to it twice, and none for a verb that needs no answer. The plans that
hang on a question all go by the one answer to it. Each is the one made without asking, but that the
subcommand is the rule's other one, exactly if the answer was no: the subcommand, the flag for JSON
messages if the verb asks for it, the configured arguments of the verb, those of the request. And
every plan that was asked for can still be made. -/
theorem probed_once (executable : String) (args : ArgLists) (moves : List Move) :
    let p := Planner.new executable args
    let calls := moves.filterMap Move.call?
    let t := ((new executable args).run moves).2
    ((probes t).map (·.args)).Nodup ∧
    (∀ number probe, .asked number probe ∈ t → ∃ request cwd rule,
      calls[number]? = some (request, cwd) ∧ request.verb.probe = some rule ∧
        probe = ⟨executable, rule.args, cwd⟩) ∧
    (∀ question answer answer', Answered t question answer → Answered t question answer' →
      answer = answer') ∧
    (∀ number i, .made number i ∈ t → ∃ request cwd subcommand,
      calls[number]? = some (request, cwd) ∧
      i.command.args = subcommand ::
        ((if request.verb.isStructured then ["--message-format", "json"] else []) ++
          args.ofVerb request.verb ++ request.args) ∧
      i = (p.planUnprobed request cwd).runAs subcommand ∧
      match request.verb.probe with
      | none => subcommand = request.verb.subcommand
      | some rule => ∃ answer, Answered t rule.args answer ∧
        subcommand = (if answer then request.verb.subcommand else rule.fallback) ∧
        (subcommand = rule.fallback ↔ answer = false)) ∧
    (∀ number answer, number < calls.length → ∃ i, .made number i ∈
      ((new executable args).run (moves ++ [.answer answer, .proceed number, .answer answer])).2) := by
  intro p calls t
  have hkept : Kept p calls ((new executable args).run moves).1 t := by
    simpa using kept_run (kept_new executable args) moves
  refine ⟨hkept.once, ?asked, ?unique, ?made, ?progress⟩
  case asked =>
    intro number probe hmem
    exact hkept.sound _ hmem
  case unique =>
    intro question answer answer' hanswer hanswer'
    have hknown := (hkept.known ⟨question, ""⟩ answer).2 hanswer
    have hknown' := (hkept.known ⟨question, ""⟩ answer').2 hanswer'
    exact Option.some.inj (hknown.symm.trans hknown')
  case made =>
    intro number i hmem
    obtain ⟨request, cwd, hcall, hi⟩ := hkept.sound _ hmem
    rcases hi with ⟨hprobe, rfl⟩ | ⟨rule, answer, hprobe, hanswered, rfl⟩
    · refine ⟨request, cwd, request.verb.subcommand, hcall, rfl, rfl, ?_⟩
      rw [hprobe]
    · refine ⟨request, cwd, if answer then request.verb.subcommand else rule.fallback, hcall, rfl, ?_,
        ?_⟩
      · cases answer <;> rfl
      · rw [hprobe]
        refine ⟨answer, hanswered, rfl, ?_⟩
        cases answer with
        | false => simp
        | true => simpa using Planner.fallback_ne hprobe
  case progress =>
    intro number answer hnumber
    obtain ⟨i, hi⟩ := hkept.made hnumber answer
    refine ⟨i, ?_⟩
    rw [run_append]
    exact hi

/-- A plan that is asked for while no other one is under way comes out as `Planner.plan` says: the
same answers are known behind it, the same probe is run, and the same plan is made. -/
theorem run_alone {s : Planning} (hfree : s.asking = none) (supports : Command → Bool)
    (request : Request) (cwd : Path) {answer : Bool}
    (hanswer : ∀ rule, request.verb.probe = some rule →
      answer = supports (s.planner.probe rule cwd)) :
    let plan := s.planner.plan supports request cwd
    let u := s.run [.call request cwd, .proceed s.calls.length, .answer answer]
    u.1.planner = plan.planner ∧ u.1.asking = none ∧ probes u.2 = plan.probe.toList ∧
      .made s.calls.length plan.invocation ∈ u.2 := by
  intro plan u
  set s' : Planning := { s with calls := s.calls ++ [⟨request, cwd, none⟩] } with hs'
  have hproceed : s'.step (.proceed s.calls.length) = s'.consult s.calls.length ⟨request, cwd, none⟩ := by
    simp [step, hs', hfree]
  have hu : u = (((s'.consult s.calls.length ⟨request, cwd, none⟩).1.step (.answer answer)).1,
      (s'.consult s.calls.length ⟨request, cwd, none⟩).2 ++
        ((s'.consult s.calls.length ⟨request, cwd, none⟩).1.step (.answer answer)).2) := by
    simp only [u, run, ← hproceed, List.append_nil]
    rfl
  cases hconsult : s.planner.consult request cwd with
  | settled i =>
    have hplan : plan = ⟨s.planner, i, none⟩ := by simp only [plan, Planner.plan, hconsult]
    rw [hu, hplan]
    simp [consult, hs', hconsult, step, finish, hfree]
  | probing rule =>
    have hprobe := (Planner.consult_eq_probing hconsult).1
    have hplan : plan = ⟨s.planner.learn (s.planner.question rule) answer,
        s.planner.under rule answer request cwd, some (s.planner.probe rule cwd)⟩ := by
      simp only [plan, Planner.plan, hconsult, hanswer rule hprobe]
    rw [hu, hplan]
    simp [consult, hs', hconsult, step, finish]

end Planning

end BuildRunner
