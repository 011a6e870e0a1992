import BuildRunner.Process.Supervisor
import BuildRunner.Proofs.Process.LineDecoder
import Mathlib.Data.List.Induction
import Mathlib.Tactic.Common

/-!
What is reported of a supervised process, whatever order things happen in: that it was started, once
and first; lines of each of its streams, which are a front of the lines of the bytes that it wrote
there; and once that it has exited. When nobody interferes all the lines are reported, and the exit
is reported behind them.
-/

namespace BuildRunner

/-! ### Lines of a stream -/

/-- The lines of bytes, the last one with or without a newline behind it. -/
def LineDecoder.decode (bytes : List UInt8) : List String :=
  let (d, lines) := empty.push bytes
  lines ++ d.finish.2.toList

/-- The line of a stream that is reported, if that is what is. -/
def Happening.lineOf? (s : Stream) : Happening → Option String
  | .line t text => if t = s then some text else none
  | _ => none

/-- The lines of a stream that are reported. -/
def linesOf (s : Stream) (hs : List Happening) : List String := hs.filterMap (Happening.lineOf? s)

/-- The ends that are reported. -/
def endsOf (hs : List Happening) : List Happening := hs.filter Happening.isTerminal

section View

variable {s : Stream} {hs hs' : List Happening}

@[simp] lemma linesOf_nil : linesOf s [] = [] := rfl

@[simp] lemma linesOf_append : linesOf s (hs ++ hs') = linesOf s hs ++ linesOf s hs' :=
  List.filterMap_append

@[simp] lemma linesOf_exited (code : Option Int) : linesOf s [.exited code] = [] := rfl

@[simp] lemma linesOf_started (pid : Option Nat) : linesOf s (.started pid :: hs) = linesOf s hs :=
  rfl

lemma linesOf_lines (t : Stream) (lines : List String) :
    linesOf s (lines.map (.line t)) = if t = s then lines else [] := by
  induction lines with
  | nil => simp
  | cons line lines ih =>
    have hcons : linesOf s (.line t line :: lines.map (.line t)) =
        (if t = s then [line] else []) ++ linesOf s (lines.map (.line t)) := by
      unfold linesOf
      by_cases ht : t = s <;> simp [Happening.lineOf?, ht]
    rw [List.map_cons, hcons, ih]
    by_cases ht : t = s <;> simp [ht]

@[simp] lemma endsOf_nil : endsOf [] = [] := rfl

@[simp] lemma endsOf_append : endsOf (hs ++ hs') = endsOf hs ++ endsOf hs' := List.filter_append ..

@[simp] lemma endsOf_exited (code : Option Int) : endsOf [.exited code] = [.exited code] := rfl

@[simp] lemma endsOf_started (pid : Option Nat) : endsOf (.started pid :: hs) = endsOf hs := rfl

@[simp] lemma endsOf_lines (t : Stream) (lines : List String) :
    endsOf (lines.map (.line t)) = [] := by
  simp [endsOf, Happening.isTerminal]

end View

namespace LineDecoder

lemma decode_eq (bytes : List UInt8) :
    decode bytes = (ofBytes bytes).2 ++ (ofBytes bytes).1.finish.2.toList := by
  have hpush : empty.push bytes = ofBytes bytes := push_eq noNewline_empty bytes
  simp only [decode, hpush]

/-- The lines that a front of the bytes completes are the first ones. -/
lemma ofBytes_prefix_decode {read bytes : List UInt8} (h : read <+: bytes) :
    (ofBytes read).2 <+: decode bytes := by
  obtain ⟨rest, rfl⟩ := h
  rw [decode_eq, ofBytes_append]
  exact (List.prefix_append _ _).trans (List.prefix_append _ _)

end LineDecoder

/-! ### One reader -/

/-- **What is known of a reader** that has read a front of some bytes, and of the lines reported by
it: together with the ones that wait they are a front of all the lines, and all of them once the
pipe is closed, unless the reader was told to stop. -/
structure Reader.Reads (r : Reader) (bytes read : List UInt8) (reported : List String) : Prop where
  /-- While the pipe is read, nothing but the lines of the bytes that were read is there. -/
  reading : ∀ {d}, r.pipe = some d → LineDecoder.ofBytes read = (d, reported ++ r.waiting)
  front : reported ++ r.waiting <+: LineDecoder.decode bytes
  whole : r.pipe = none → r.told = false → reported ++ r.waiting = LineDecoder.decode bytes

namespace Reader

variable {r : Reader} {bytes read : List UInt8} {reported : List String}

lemma reads_fresh (bytes : List UInt8) : fresh.Reads bytes [] [] := by
  refine ⟨fun hd => ?_, List.nil_prefix, fun hpipe => by simp [fresh] at hpipe⟩
  obtain rfl := Option.some.inj hd
  rfl

namespace Reads

lemma take (h : r.Reads bytes read reported) (piece : List UInt8)
    (hread : read ++ piece <+: bytes) : (r.take piece).Reads bytes (read ++ piece) reported := by
  unfold Reader.take
  split
  case h_1 hpipe => exact ⟨fun hd => by simp [hpipe] at hd, h.front, h.whole⟩
  case h_2 d hpipe =>
    have hlines : LineDecoder.ofBytes (read ++ piece) =
        ((d.push piece).1, reported ++ (r.waiting ++ (d.push piece).2)) := by
      have hclean : d.NoNewline := by
        simpa [h.reading hpipe] using LineDecoder.noNewline_ofBytes read
      rw [LineDecoder.ofBytes_append, h.reading hpipe, LineDecoder.push_eq hclean]
      simp only [List.append_assoc]
    refine ⟨fun hd => ?_, ?_, fun hnone => by simp at hnone⟩
    · obtain rfl := Option.some.inj hd
      exact hlines
    · have hfront := LineDecoder.ofBytes_prefix_decode hread
      rwa [hlines] at hfront

lemma close (h : r.Reads bytes read reported) (hread : read = bytes) :
    r.close.Reads bytes read reported := by
  unfold Reader.close
  split
  case h_1 => exact h
  case h_2 d hpipe =>
    have hall : reported ++ (r.waiting ++ d.finish.2.toList) = LineDecoder.decode bytes := by
      rw [← hread, LineDecoder.decode_eq, h.reading hpipe, List.append_assoc]
    exact ⟨fun hd => by simp at hd, hall ▸ List.prefix_rfl, fun _ _ => hall⟩

lemma report (h : r.Reads bytes read reported) :
    r.report.Reads bytes read (reported ++ r.waiting.head?.toList) := by
  have hsame : reported ++ r.waiting.head?.toList ++ r.waiting.tail = reported ++ r.waiting := by
    cases r.waiting <;> simp
  refine ⟨fun hd => ?_, ?_, fun hpipe htold => ?_⟩
  · exact (h.reading hd).trans (congrArg _ hsame.symm)
  · exact hsame ▸ h.front
  · exact hsame.trans (h.whole hpipe htold)

lemma stop (h : r.Reads bytes read reported) : r.stop.Reads bytes read reported :=
  ⟨h.reading, h.front, fun _ htold => by simp [Reader.stop] at htold⟩

lemma leave (h : r.Reads bytes read reported) : r.leave.Reads bytes read reported := by
  unfold Reader.leave
  split
  case isTrue htold =>
    refine ⟨fun hd => by simp at hd, ?_, fun _ hfalse => by simp [htold] at hfalse⟩
    rw [List.append_nil]
    exact (List.prefix_append _ _).trans h.front
  case isFalse => exact h

end Reads

end Reader

namespace Supervisor

/-! ### What one step does -/

/-- What a thing that happens makes of the reader of a stream. -/
def Input.reader (state : Supervision) (s : Stream) (r : Reader) : Input → Reader
  | .piece t bytes => if t = s then r.take bytes else r
  | .closed t => if t = s then r.close else r
  | .reported t => if t = s then r.report else r
  | .stopped t => if t = s then r.leave else r
  | .ended _ => if state = .ending then r.stop else r
  | .kill => r
  | .graceOver t => match state with
    | .draining _ => if t = s then r.stop else r
    | _ => r

/-- The line that gets through when something happens. -/
def lines (v : Supervisor) : Input → List Happening
  | .reported s => (v.reader s).waiting.head?.toList.map (.line s)
  | _ => []

/-- While readers are waited for there is one to wait for. -/
def Settled (v : Supervisor) : Prop := ∀ {code}, v.state = .draining code → v.drained? ≠ none

/-- **What a step makes of what is waited for**, and the end that is reported by it. -/
inductive Turns (v : Supervisor) (i : Input) (w : Supervisor) : List Happening → Prop where
  | stays (same : w.state = v.state) (settled : v.Settled → w.Settled)
    (watching : v.state = .watching → i ≠ .kill)
    (alive : v.state = .watching ∨ v.state = .ending → ∀ code, i ≠ .ended code) : Turns v i w []
  | told (before : v.state = .watching) (kill : i = .kill) (behind : w.state = .ending) :
    Turns v i w []
  | drains {code : Option Int} (before : v.state = .watching) (ended : i = .ended code)
    (behind : w.state = .draining code) (settled : w.Settled) : Turns v i w []
  | reaped {code : Option Int} (before : v.state = .ending) (ended : i = .ended code)
    (behind : w.state = .finished) : Turns v i w [.exited code]
  | drained {code : Option Int}
    (before : v.state = .draining code ∨ v.state = .watching ∧ i = .ended code)
    (behind : w.state = .finished) (readers : w.drained? = none) : Turns v i w [.exited code]

section Step

variable (v : Supervisor) (i : Input)

@[simp] lemma reader_withReader (s t : Stream) (r : Reader) :
    (v.withReader s r).reader t = if s = t then r else v.reader t := by
  cases s <;> cases t <;> rfl

@[simp] lemma state_withReader (s : Stream) (r : Reader) : (v.withReader s r).state = v.state := by
  cases s <;> rfl

lemma drained?_eq_none : v.drained? = none ↔ ∀ s, (v.reader s).isReading = false := by
  unfold drained?
  refine ⟨fun h s => ?_, fun h => ?_⟩
  · cases s <;> simp only [reader] <;> grind
  · have hout := h .stdout
    have herr := h .stderr
    simp only [reader] at hout herr
    simp [hout, herr]

/-- Either there is something to wait for, or the end is reported. -/
lemma settle_cases : v.settle = (v, []) ∧ v.Settled ∨
    ∃ code, v.state = .draining code ∧ v.drained? = none ∧
      v.settle = ({ v with state := .finished }, [.exited code]) := by
  unfold settle
  split
  case h_1 code hstate =>
    split
    case h_1 hnone => exact .inr ⟨code, hstate, hnone, rfl⟩
    case h_2 s hsome => exact .inl ⟨rfl, fun _ => by simp [hsome]⟩
  case h_2 hstate => exact .inl ⟨rfl, fun h => absurd h (hstate _)⟩

lemma reader_settle (s : Stream) : v.settle.1.reader s = v.reader s := by
  rcases v.settle_cases with ⟨h, -⟩ | ⟨code, -, -, h⟩ <;> rw [h]
  cases s <;> rfl

variable {v i}

/-- What a change of a reader makes of what is waited for. -/
lemma turns_afterReader (hkill : i ≠ .kill) (hended : ∀ code, i ≠ .ended code) (s : Stream)
    (r : Reader) : Turns v i (v.afterReader s r).1 (v.afterReader s r).2 := by
  unfold afterReader
  rcases (v.withReader s r).settle_cases with ⟨h, hsettled⟩ | ⟨code, hstate, hnone, h⟩
  · rw [h]
    exact .stays (state_withReader v s r) (fun _ => hsettled) (fun _ => hkill) fun _ => hended
  · rw [h]
    rw [state_withReader] at hstate
    exact .drained (.inl hstate) rfl hnone

lemma turns_ignored (hwatching : v.state ≠ .watching) (hending : v.state ≠ .ending) :
    Turns v i v [] :=
  .stays rfl id (fun h => absurd h hwatching) fun h => (h.elim hwatching hending).elim

variable (v i)

/-- **What a step does**: a line may get through, and then the end may be reported. -/
theorem turns_step : ∃ ends, (v.step i).2 = v.lines i ++ ends ∧ Turns v i (v.step i).1 ends := by
  cases i with
  | piece s bytes => exact ⟨_, rfl, turns_afterReader (by simp) (by simp) s _⟩
  | closed s => exact ⟨_, rfl, turns_afterReader (by simp) (by simp) s _⟩
  | reported s => exact ⟨_, rfl, turns_afterReader (by simp) (by simp) s _⟩
  | stopped s => exact ⟨_, rfl, turns_afterReader (by simp) (by simp) s _⟩
  | ended code =>
    refine ⟨_, rfl, ?_⟩
    rcases hstate : v.state with _ | _ | c | _ <;> simp only [step, hstate]
    · rcases settle_cases { v with state := .draining code } with ⟨h, hsettled⟩ | ⟨c, hc, hnone, h⟩
      · rw [h]
        exact .drains hstate rfl rfl hsettled
      · obtain rfl := Supervision.draining.inj hc
        rw [h]
        exact .drained (.inr ⟨hstate, rfl⟩) rfl hnone
    · exact .reaped hstate rfl rfl
    · exact turns_ignored (by simp [hstate]) (by simp [hstate])
    · exact turns_ignored (by simp [hstate]) (by simp [hstate])
  | kill =>
    refine ⟨_, rfl, ?_⟩
    rcases hstate : v.state with _ | _ | c | _ <;> simp only [step, hstate]
    · exact .told hstate rfl rfl
    · exact .stays rfl id (by simp [hstate]) (by simp)
    · exact turns_ignored (by simp [hstate]) (by simp [hstate])
    · exact turns_ignored (by simp [hstate]) (by simp [hstate])
  | graceOver s =>
    refine ⟨_, rfl, ?_⟩
    rcases hstate : v.state with _ | _ | c | _ <;> simp only [step, hstate]
    · exact .stays rfl id (by simp) (by simp)
    · exact .stays rfl id (by simp) (by simp)
    · exact turns_afterReader (by simp) (by simp) s _
    · exact .stays rfl id (by simp) (by simp)

/-- What a step makes of the readers. -/
lemma reader_step (s : Stream) :
    (v.step i).1.reader s = i.reader v.state s (v.reader s) := by
  have hafter (t : Stream) (r : Reader) :
      (v.afterReader t r).1.reader s = if t = s then r else v.reader s := by
    rw [afterReader, reader_settle, reader_withReader]
  cases i with
  | piece t bytes => simp only [step, hafter, Input.reader]; split <;> simp_all
  | closed t => simp only [step, hafter, Input.reader]; split <;> simp_all
  | reported t => simp only [step, hafter, Input.reader]; split <;> simp_all
  | stopped t => simp only [step, hafter, Input.reader]; split <;> simp_all
  | ended code =>
    rcases hstate : v.state with _ | _ | c | _ <;> simp only [step, hstate, Input.reader]
    · rw [reader_settle]
      cases s <;> rfl
    · cases s <;> rfl
    · rfl
    · rfl
  | kill =>
    rcases hstate : v.state with _ | _ | c | _ <;> simp only [step, hstate, Input.reader]
    cases s <;> rfl
  | graceOver t =>
    rcases hstate : v.state with _ | _ | c | _ <;> simp only [step, hstate, Input.reader, hafter]
    split <;> simp_all

end Step

/-! ### Runs grow at their end -/

lemma run_append (v : Supervisor) (is js : List Input) :
    v.run (is ++ js) =
      (((v.run is).1.run js).1, (v.run is).2 ++ ((v.run is).1.run js).2) := by
  induction is generalizing v with
  | nil => rfl
  | cons i is ih => simp [run, ih]

lemma run_concat (v : Supervisor) (is : List Input) (i : Input) :
    v.run (is ++ [i]) = (((v.run is).1.step i).1, (v.run is).2 ++ ((v.run is).1.step i).2) := by
  simp [run_append, run]

/-! ### The end -/

/-- The supervision of a process that was just started. -/
def fresh : Supervisor := ⟨.watching, .fresh, .fresh⟩

lemma endsOf_step {v : Supervisor} {i : Input} {ends : List Happening}
    (h : (v.step i).2 = v.lines i ++ ends) (hturns : Turns v i (v.step i).1 ends) :
    endsOf (v.step i).2 = ends := by
  have hlines : endsOf (v.lines i) = [] := by
    cases i with
    | reported s => exact endsOf_lines s _
    | _ => rfl
  rw [h, endsOf_append, hlines]
  cases hturns <;> rfl

section End

variable {v : Supervisor} {is : List Input}

lemma settled_step (h : v.Settled) (i : Input) : (v.step i).1.Settled := by
  obtain ⟨ends, -, hturns⟩ := turns_step v i
  intro code hcode
  cases hturns with
  | stays _ hsettled => exact hsettled h hcode
  | drains _ _ _ hsettled => exact hsettled hcode
  | told _ _ hbehind => simp [hbehind] at hcode
  | reaped _ _ hbehind => simp [hbehind] at hcode
  | drained _ hbehind => simp [hbehind] at hcode

lemma settled_run (is : List Input) : (fresh.run is).1.Settled := by
  induction is using List.reverseRecOn with
  | nil => exact fun h => by simp [run, fresh] at h
  | append_singleton is i ih =>
    rw [run_concat]
    exact settled_step ih i

/-- Behind the end there is no other. -/
lemma run_finished (h : v.state = .finished) (is : List Input) :
    (v.run is).1.state = .finished ∧ endsOf (v.run is).2 = [] := by
  induction is generalizing v with
  | nil => exact ⟨h, rfl⟩
  | cons i is ih =>
    obtain ⟨ends, hends, hturns⟩ := turns_step v i
    have hnow := endsOf_step hends hturns
    have hstate : (v.step i).1.state = .finished ∧ ends = [] := by
      cases hturns with
      | stays hsame => exact ⟨hsame.trans h, rfl⟩
      | drained hbefore => simp [h] at hbefore
      | told hbefore => simp [h] at hbefore
      | drains hbefore => simp [h] at hbefore
      | reaped hbefore => simp [h] at hbefore
    obtain ⟨hlater, hrest⟩ := ih hstate.1
    exact ⟨hlater, by simp [run, hnow, hstate.2, hrest]⟩

/-- Behind the end of the process its readers are waited for, and then the end is reported. -/
lemma run_draining {code : Option Int} (h : v.state = .draining code) (is : List Input) :
    (v.run is).1.state = .draining code ∧ endsOf (v.run is).2 = [] ∨
      (v.run is).1.state = .finished ∧ endsOf (v.run is).2 = [.exited code] := by
  induction is generalizing v with
  | nil => exact .inl ⟨h, rfl⟩
  | cons i is ih =>
    obtain ⟨ends, hends, hturns⟩ := turns_step v i
    have hnow := endsOf_step hends hturns
    have hstate : (v.step i).1.state = .draining code ∧ ends = [] ∨
        (v.step i).1.state = .finished ∧ ends = [.exited code] := by
      cases hturns with
      | stays hsame => exact .inl ⟨hsame.trans h, rfl⟩
      | drained hbefore hbehind =>
        rcases hbefore with hc | ⟨hw, -⟩
        · obtain rfl := Supervision.draining.inj (hc.symm.trans h)
          exact .inr ⟨hbehind, rfl⟩
        · simp [h] at hw
      | told hbefore => simp [h] at hbefore
      | drains hbefore => simp [h] at hbefore
      | reaped hbefore => simp [h] at hbefore
    rcases hstate with ⟨hstate, rfl⟩ | ⟨hstate, rfl⟩
    · simpa [run, hnow] using ih hstate
    · obtain ⟨hlater, hrest⟩ := run_finished hstate is
      exact .inr ⟨hlater, by simp [run, hnow, hrest]⟩

/-- Up to the end of the process no end is reported, and nothing is waited for but that. -/
lemma run_alive (h : v.state = .watching ∨ v.state = .ending) (halive : ∀ code, .ended code ∉ is) :
    endsOf (v.run is).2 = [] ∧ ((v.run is).1.state = .watching ∨ (v.run is).1.state = .ending) ∧
      (v.state = .ending ∨ .kill ∈ is ↔ (v.run is).1.state = .ending) := by
  induction is generalizing v with
  | nil => exact ⟨rfl, h, by simp [run]⟩
  | cons i is ih =>
    simp only [List.mem_cons, not_or] at halive
    have hi (code : Option Int) : i ≠ .ended code := fun hi => (halive code).1 hi.symm
    obtain ⟨ends, hends, hturns⟩ := turns_step v i
    have hnow := endsOf_step hends hturns
    have hstate : ends = [] ∧
        ((v.step i).1.state = .watching ∨ (v.step i).1.state = .ending) ∧
        (v.state = .ending ∨ i = .kill ↔ (v.step i).1.state = .ending) := by
      cases hturns with
      | stays hsame _ hwatching =>
        rw [hsame]
        refine ⟨rfl, h, ⟨fun hor => ?_, .inl⟩⟩
        rcases hor with he | hk
        · exact he
        · exact h.resolve_left fun hw => hwatching hw hk
      | told _ hkill hbehind => exact ⟨rfl, .inr hbehind, fun _ => hbehind, fun _ => .inr hkill⟩
      | drains _ hended => exact absurd hended (hi _)
      | reaped _ hended => exact absurd hended (hi _)
      | drained hbefore =>
        rcases hbefore with hc | ⟨-, hended⟩
        · simp [hc] at h
        · exact absurd hended (hi _)
    obtain ⟨hnone, hor, hiff⟩ := ih hstate.2.1 fun code => (halive code).2
    refine ⟨by simp [run, hnow, hstate.1, hnone], hor, ?_⟩
    rw [run, ← hiff, ← hstate.2.2, List.mem_cons, or_assoc, eq_comm (a := i)]

lemma exists_first_ended (h : ∃ code, .ended code ∈ is) : ∃ before code after,
    is = before ++ .ended code :: after ∧ ∀ code, .ended code ∉ before := by
  induction is with
  | nil => simp at h
  | cons i is ih =>
    by_cases hi : ∃ code, i = .ended code
    · obtain ⟨code, rfl⟩ := hi
      exact ⟨[], code, is, rfl, by simp⟩
    · obtain ⟨code, hcode⟩ := h
      have htail : .ended code ∈ is :=
        (List.mem_cons.1 hcode).resolve_left fun h => hi ⟨code, h.symm⟩
      obtain ⟨before, code, after, rfl, hnone⟩ := ih ⟨code, htail⟩
      refine ⟨i :: before, code, after, rfl, fun c hc => ?_⟩
      rcases List.mem_cons.1 hc with h | h
      · exact hi ⟨c, h.symm⟩
      · exact hnone c h

/-- **Behind the end of the process** its readers are waited for, unless it was told to end; or that
has been reported, once. -/
theorem ends_behind {before : List Input} (halive : ∀ code, .ended code ∉ before)
    (code : Option Int) (after : List Input) :
    let w := fresh.run (before ++ .ended code :: after)
    w.1.state = .draining code ∧ .kill ∉ before ∧ endsOf w.2 = [] ∨
      w.1.state = .finished ∧ endsOf w.2 = [.exited code] := by
  obtain ⟨hearly, hstate, hkill⟩ := run_alive (v := fresh) (.inl rfl) halive
  rw [run_append, run]
  generalize (fresh.run before).1 = v at hstate hkill
  obtain ⟨ends, hends, hturns⟩ := turns_step v (.ended code)
  have hnow := endsOf_step hends hturns
  simp only [endsOf_append, hearly, hnow, List.nil_append]
  cases hturns with
  | stays _ _ _ halive => exact absurd rfl (halive hstate code)
  | told _ hkill => cases hkill
  | drains hbefore hcode hbehind =>
    obtain rfl := Input.ended.inj hcode
    have hunasked : .kill ∉ before := fun hk => by
      have hending := hkill.1 (.inr hk)
      simp [hbefore] at hending
    simpa [hunasked] using run_draining hbehind after
  | reaped _ hcode hbehind =>
    obtain rfl := Input.ended.inj hcode
    obtain ⟨hfinished, hrest⟩ := run_finished hbehind after
    exact .inr ⟨hfinished, by rw [hrest]; rfl⟩
  | drained hbefore hbehind =>
    rcases hbefore with hd | ⟨-, hcode⟩
    · simp [hd] at hstate
    · obtain rfl := Input.ended.inj hcode
      obtain ⟨hfinished, hrest⟩ := run_finished hbehind after
      exact .inr ⟨hfinished, by rw [hrest]; rfl⟩

/-- **The end is reported at most once**, and never before the process has ended. -/
theorem ends_run (is : List Input) : endsOf (fresh.run is).2 = [] ∨
    ∃ code, .ended code ∈ is ∧ (fresh.run is).1.state = .finished ∧
      endsOf (fresh.run is).2 = [.exited code] := by
  by_cases hended : ∃ code, .ended code ∈ is
  · obtain ⟨before, code, after, rfl, halive⟩ := exists_first_ended hended
    rcases ends_behind halive code after with ⟨-, -, hnone⟩ | ⟨hstate, hends⟩
    · exact .inl hnone
    · exact .inr ⟨code, by simp, hstate, hends⟩
  · rw [not_exists] at hended
    exact .inl (run_alive (v := fresh) (.inl rfl) hended).1

/-- **A process comes to its end**: it ends, and where nobody asked for that before, each of its
readers gets to the end of its work or runs out of its grace. -/
def Concluded (is : List Input) : Prop :=
  ∃ before code after, is = before ++ .ended code :: after ∧ (∀ c, .ended c ∉ before) ∧
    (.kill ∈ before ∨
      ∀ s, .graceOver s ∈ after ∨ ((fresh.run is).1.reader s).isOver = true)

lemma told_reader {state : Supervision} {s : Stream} {r : Reader} (h : r.told = true) (i : Input) :
    (i.reader state s r).told = true := by
  cases i <;>
    simp only [Input.reader, Reader.take, Reader.close, Reader.report, Reader.leave] <;>
    grind [Reader.stop]

lemma told_run {s : Stream} (h : (v.reader s).told = true) (is : List Input) :
    ((v.run is).1.reader s).told = true := by
  induction is generalizing v with
  | nil => exact h
  | cons i is ih => exact ih (by rw [reader_step]; exact told_reader h i)

/-- A reader whose grace is over while it is waited for has been told to stop. -/
lemma told_of_graceOver {before after : List Input} {code : Option Int} {s : Stream}
    (halive : ∀ code, .ended code ∉ before) (hgrace : .graceOver s ∈ after)
    (hstate : (fresh.run (before ++ .ended code :: after)).1.state = .draining code) :
    ((fresh.run (before ++ .ended code :: after)).1.reader s).told = true := by
  obtain ⟨mid, later, rfl⟩ := List.mem_iff_append.1 hgrace
  have hsplit : before ++ .ended code :: (mid ++ .graceOver s :: later) =
      (before ++ .ended code :: mid) ++ .graceOver s :: later := by simp
  rw [hsplit, run_append] at hstate ⊢
  rcases ends_behind halive code mid with ⟨hmid, -, -⟩ | ⟨hmid, -⟩
  · refine told_run ?_ later
    rw [reader_step, hmid]
    simp [Input.reader, Reader.stop]
  · have hfinished := (run_finished hmid (.graceOver s :: later)).1
    cases hstate.symm.trans hfinished

/-- **The end of a process that comes to its end is reported.** -/
theorem ends_of_concluded (h : Concluded is) :
    ∃ code, .ended code ∈ is ∧ endsOf (fresh.run is).2 = [.exited code] := by
  obtain ⟨before, code, after, rfl, halive, hend⟩ := h
  rcases ends_behind halive code after with ⟨hstate, hkill, -⟩ | ⟨-, hends⟩
  · -- One of the readers would still be waited for.
    exfalso
    refine settled_run _ hstate ((drained?_eq_none _).2 fun s => ?_)
    rcases hend with hk | hreaders
    · exact absurd hk hkill
    · rcases hreaders s with hgrace | hover
      · simp [Reader.isReading, told_of_graceOver halive hgrace hstate]
      · simp [Reader.isReading, hover]
  · exact ⟨code, by simp, hends⟩

end End

/-! ### The lines -/

/-- The piece of a stream that comes through, if that is what happens. -/
def Input.pieceOf? (s : Stream) : Input → Option (List UInt8)
  | .piece t bytes => if t = s then some bytes else none
  | _ => none

/-- The bytes of a stream that come through. -/
def bytesOf (s : Stream) (is : List Input) : List UInt8 :=
  is.flatMap fun i => (i.pieceOf? s).getD []

/-- **The bytes left to come of a stream come through in pieces**, and the end of its pipe is met
behind the last of them. -/
def Delivers (s : Stream) : List UInt8 → List Input → Prop
  | _, [] => True
  | left, .piece t bytes :: is =>
    if t = s then bytes <+: left ∧ Delivers s (left.drop bytes.length) is else Delivers s left is
  | left, .closed t :: is => (t = s → left = []) ∧ Delivers s left is
  | left, _ :: is => Delivers s left is

section Lines

variable {bytes read left : List UInt8} {reported : List String} {s : Stream} {is : List Input}

lemma Delivers.cons {i : Input} (h : Delivers s left (i :: is)) :
    (i = .closed s → left = []) ∧
      ∃ rest, left = (i.pieceOf? s).getD [] ++ rest ∧ Delivers s rest is := by
  cases i with
  | piece t bytes =>
    unfold Delivers at h
    split at h
    case isTrue ht =>
      obtain ⟨⟨rest, rfl⟩, hrest⟩ := h
      rw [List.drop_left] at hrest
      exact ⟨by simp, rest, by simp [Input.pieceOf?, ht], hrest⟩
    case isFalse ht => exact ⟨by simp, left, by simp [Input.pieceOf?, ht], h⟩
  | closed t =>
    obtain ⟨hleft, hrest⟩ := h
    exact ⟨fun hi => hleft (Input.closed.inj hi), left, rfl, hrest⟩
  | _ => exact ⟨by simp, left, rfl, h⟩

lemma linesOf_step (v : Supervisor) (i : Input) (s : Stream) :
    linesOf s (v.step i).2 = linesOf s (v.lines i) := by
  obtain ⟨ends, hends, hturns⟩ := turns_step v i
  rw [hends, linesOf_append]
  cases hturns <;> simp

/-- What a step makes of what is known of a reader. -/
lemma reads_step {v : Supervisor} (h : (v.reader s).Reads bytes read reported) (i : Input)
    (hpiece : read ++ (i.pieceOf? s).getD [] <+: bytes) (hclosed : i = .closed s → read = bytes) :
    ((v.step i).1.reader s).Reads bytes (read ++ (i.pieceOf? s).getD [])
      (reported ++ linesOf s (v.step i).2) := by
  rw [reader_step, linesOf_step]
  cases i with
  | piece t piece =>
    by_cases ht : t = s
    · simpa [Input.reader, Input.pieceOf?, lines, ht] using
        h.take piece (by simpa [Input.pieceOf?, ht] using hpiece)
    · simpa [Input.reader, Input.pieceOf?, lines, ht] using h
  | closed t =>
    by_cases ht : t = s
    · simpa [Input.reader, Input.pieceOf?, lines, ht] using h.close (hclosed (by rw [ht]))
    · simpa [Input.reader, Input.pieceOf?, lines, ht] using h
  | reported t =>
    by_cases ht : t = s
    · subst ht
      simpa [Input.reader, Input.pieceOf?, lines, linesOf_lines] using h.report
    · simpa [Input.reader, Input.pieceOf?, lines, linesOf_lines, ht] using h
  | stopped t =>
    by_cases ht : t = s
    · simpa [Input.reader, Input.pieceOf?, lines, ht] using h.leave
    · simpa [Input.reader, Input.pieceOf?, lines, ht] using h
  | ended code =>
    by_cases hending : v.state = .ending
    · simpa [Input.reader, Input.pieceOf?, lines, hending] using h.stop
    · simpa [Input.reader, Input.pieceOf?, lines, hending] using h
  | kill => simpa [Input.reader, Input.pieceOf?, lines] using h
  | graceOver t =>
    simp only [Input.reader, Input.pieceOf?, lines, Option.getD_none, List.append_nil, linesOf_nil]
    split
    · split
      · exact h.stop
      · exact h
    · exact h

/-- **What is known of a reader behind a run.** -/
theorem reads_run (read : List UInt8) {v : Supervisor}
    (h : (v.reader s).Reads (read ++ left) read reported) (hdelivers : Delivers s left is) :
    ((v.run is).1.reader s).Reads (read ++ left) (read ++ bytesOf s is)
      (reported ++ linesOf s (v.run is).2) := by
  induction is generalizing v read left reported with
  | nil => simpa [bytesOf, run] using h
  | cons i is ih =>
    obtain ⟨hclosed, rest, rfl, hrest⟩ := hdelivers.cons
    have hnow := reads_step h i (by simp [← List.append_assoc]) fun hi => by simp [hclosed hi]
    rw [← List.append_assoc] at hnow
    simpa [bytesOf, run, List.append_assoc] using ih _ hnow hrest

end Lines

/-! ### Nobody interferes -/

/-- **What is known behind a run in which nobody interferes**: no reader was told to stop, and once
the end is reported, which is the last report, none is at work. -/
structure Undisturbed (v : Supervisor) (hs : List Happening) : Prop where
  unasked : v.state ≠ .ending
  untold : ∀ s, (v.reader s).told = false
  readersOver : v.state = .finished → ∀ s, (v.reader s).isOver = true
  last : v.state = .finished → ∃ before code, hs = before ++ [.exited code]

lemma isOver_reader {state : Supervision} {s : Stream} {r : Reader} (h : r.isOver = true)
    (i : Input) : (i.reader state s r).isOver = true := by
  obtain ⟨pipe, waiting, told⟩ := r
  obtain ⟨rfl, rfl⟩ : pipe = none ∧ waiting = [] := by simpa [Reader.isOver] using h
  cases i <;> simp only [Input.reader, Reader.take, Reader.close, Reader.report, Reader.leave] <;>
    grind [Reader.isOver, Reader.stop]

lemma lines_of_isOver {v : Supervisor} (h : ∀ s, (v.reader s).isOver = true) (i : Input) :
    v.lines i = [] := by
  cases i with
  | reported s =>
    have hwaiting : (v.reader s).waiting = [] := by
      have hs := h s
      simp only [Reader.isOver, Bool.and_eq_true, List.isEmpty_iff] at hs
      exact hs.2
    simp [lines, hwaiting]
  | _ => rfl

lemma Undisturbed.step {v : Supervisor} {hs : List Happening} (h : Undisturbed v hs) {i : Input}
    (hkill : i ≠ .kill) (hgrace : ∀ s, i ≠ .graceOver s) :
    Undisturbed (v.step i).1 (hs ++ (v.step i).2) := by
  have huntold (s : Stream) : ((v.step i).1.reader s).told = false := by
    have hs := h.untold s
    rw [reader_step]
    cases i with
    | kill => exact absurd rfl hkill
    | graceOver s => exact absurd rfl (hgrace s)
    | ended code => simpa [Input.reader, h.unasked] using hs
    | piece t bytes =>
      simp only [Input.reader, Reader.take]
      grind
    | closed t =>
      simp only [Input.reader, Reader.close]
      grind
    | reported t =>
      simp only [Input.reader, Reader.report]
      grind
    | stopped t =>
      simp only [Input.reader, Reader.leave]
      grind
  have hover (hnone : (v.step i).1.drained? = none) (s : Stream) :
      ((v.step i).1.reader s).isOver = true := by
    have hreading := (drained?_eq_none _).1 hnone s
    simpa [Reader.isReading, huntold s] using hreading
  obtain ⟨ends, hends, hturns⟩ := turns_step v i
  rw [hends]
  cases hturns with
  | told _ h => exact absurd h hkill
  | reaped hbefore => exact absurd hbefore h.unasked
  | drains _ _ hbehind =>
    exact ⟨by simp [hbehind], huntold, fun hf => by simp [hbehind] at hf,
      fun hf => by simp [hbehind] at hf⟩
  | drained _ hbehind hnone =>
    refine ⟨by simp [hbehind], huntold, fun _ => hover hnone, fun _ => ?_⟩
    exact ⟨hs ++ v.lines i, _, by rw [List.append_assoc]⟩
  | stays hsame =>
    refine ⟨hsame ▸ h.unasked, huntold, fun hf s => ?_, fun hf => ?_⟩
    · rw [reader_step]
      exact isOver_reader (h.readersOver (hsame.symm.trans hf) s) i
    · rw [lines_of_isOver (h.readersOver (hsame.symm.trans hf))]
      simpa using h.last (hsame.symm.trans hf)

lemma undisturbed_run {is : List Input} (hkill : .kill ∉ is) (hgrace : ∀ s, .graceOver s ∉ is) :
    Undisturbed (fresh.run is).1 (fresh.run is).2 := by
  induction is using List.reverseRecOn with
  | nil =>
    refine ⟨by simp [run, fresh], fun s => by cases s <;> rfl, fun hf => ?_, fun hf => ?_⟩
    · simp [run, fresh] at hf
    · simp [run, fresh] at hf
  | append_singleton is i ih =>
    simp only [List.mem_append, List.mem_singleton, not_or] at hkill hgrace
    rw [run_concat]
    exact (ih hkill.1 fun s => (hgrace s).1).step (Ne.symm hkill.2) fun s => Ne.symm (hgrace s).2

/-! ### The main statement -/

lemma started_notMem_run (v : Supervisor) (is : List Input) (pid : Option Nat) :
    .started pid ∉ (v.run is).2 := by
  induction is generalizing v with
  | nil => simp [run]
  | cons i is ih =>
    obtain ⟨ends, hends, hturns⟩ := turns_step v i
    have hlines : .started pid ∉ v.lines i := by cases i <;> simp [lines]
    have hlast : .started pid ∉ ends := by cases hturns <;> simp
    simp [run, hends, hlines, hlast, ih]

/-- **What is reported of a process comes in order.** A process that cannot be started is reported as
failed, and nothing else is. One that is started is reported as started, once and first; the lines
of each of its streams are a front of the lines of the bytes that it wrote there; and its exit is
the one end that can be reported, and it is when the process comes to its end. Where nobody asked
for that, and no reader ran out of its grace, all the lines have been reported before. -/
theorem reports_in_order (started : Except StartError (Option Nat)) (out : Stream → List UInt8)
    (is : List Input) (h : ∀ s, Delivers s (out s) is) :
    let hs := reports started is
    (∀ e, started = .error e → hs = [.failed e]) ∧
    ∀ pid, started = .ok pid →
      (∃ later, hs = .started pid :: later ∧ ∀ p, .started p ∉ later) ∧
      (endsOf hs = [] ∨ ∃ code, .ended code ∈ is ∧ endsOf hs = [.exited code]) ∧
      (Concluded is → ∃ code, .ended code ∈ is ∧ endsOf hs = [.exited code]) ∧
      (∀ s, linesOf s hs <+: LineDecoder.decode (out s)) ∧
      (.kill ∉ is → (∀ s, .graceOver s ∉ is) → endsOf hs ≠ [] →
        ∃ before code, hs = before ++ [.exited code] ∧
          ∀ s, linesOf s before = LineDecoder.decode (out s)) := by
  intro hs
  refine ⟨fun e he => by simp [hs, reports, he], fun pid hpid => ?_⟩
  have heq : hs = .started pid :: (fresh.run is).2 := by
    simp [hs, reports, hpid, start, fresh]
  have hreads (s : Stream) : ((fresh.run is).1.reader s).Reads (out s) (bytesOf s is)
      (linesOf s (fresh.run is).2) := by
    have hstart : (fresh.reader s).Reads (out s) [] [] := by
      cases s <;> exact Reader.reads_fresh _
    exact reads_run [] hstart (h s)
  rw [heq]
  simp only [endsOf_started, linesOf_started]
  refine ⟨⟨_, rfl, fun p => started_notMem_run _ is p⟩, ?_, ends_of_concluded, fun s => ?_, ?_⟩
  · rcases ends_run is with hnone | ⟨code, hcode, -, hends⟩
    · exact .inl hnone
    · exact .inr ⟨code, hcode, hends⟩
  · exact (List.prefix_append _ _).trans (hreads s).front
  · intro hkill hgrace hends
    have hquiet := undisturbed_run hkill hgrace
    obtain ⟨-, -, hstate, -⟩ := (ends_run is).resolve_left hends
    obtain ⟨before, code, hlast⟩ := hquiet.last hstate
    refine ⟨.started pid :: before, code, by simp [hlast], fun s => ?_⟩
    have hover := hquiet.readersOver hstate s
    simp only [Reader.isOver, Bool.and_eq_true, Option.isNone_iff_eq_none,
      List.isEmpty_iff] at hover
    have hwhole := (hreads s).whole hover.1 (hquiet.untold s)
    simpa [hlast, hover.2] using hwhole

/-- Two streams cut inside a line and inside its end, the last line of one without a newline, and
the exit in the middle of it all: it is reported last. -/
theorem reports_in_order_interleaved :
    let out : Stream → List UInt8
      | .stdout => [0x61, 0x0D, 0x0A, 0x62]
      | .stderr => [0x65, 0x0A]
    let is : List Input := [.piece .stdout [0x61, 0x0D], .piece .stderr [0x65, 0x0A],
      .reported .stderr, .piece .stdout [0x0A, 0x62], .ended (some 0), .reported .stdout,
      .closed .stderr, .closed .stdout, .reported .stdout]
    (∀ s, Delivers s (out s) is) ∧ Concluded is ∧
      ∃ before code, reports (.ok (some 7)) is = before ++ [.exited code] ∧
        linesOf .stdout before = ["a", "b"] ∧ linesOf .stderr before = ["e"] := by
  intro out is
  have hdelivers : ∀ s, Delivers s (out s) is := by
    intro s
    cases s <;> simp [Delivers, out, is]
  have hconcluded : Concluded is := by
    refine ⟨is.take 4, some 0, is.drop 5, rfl, by simp [is], .inr fun s => .inr ?_⟩
    cases s <;> decide +kernel
  obtain ⟨-, hall⟩ := reports_in_order (.ok (some 7)) out is hdelivers
  obtain ⟨-, -, hends, -, hquiet⟩ := hall (some 7) rfl
  obtain ⟨code, -, hcode⟩ := hends hconcluded
  obtain ⟨before, code, heq, hlines⟩ :=
    hquiet (by simp [is]) (by simp [is]) (by simp [hcode])
  refine ⟨hdelivers, hconcluded, before, code, heq, ?_, ?_⟩
  · rw [hlines]
    decide +kernel
  · rw [hlines]
    decide +kernel

end Supervisor

end BuildRunner
