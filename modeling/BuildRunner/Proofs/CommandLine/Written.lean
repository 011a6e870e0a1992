import BuildRunner.CommandLine
import BuildRunner.Proofs.Run.Planning
import BuildRunner.Run.Session
import Mathlib.Data.List.Perm.Basic
import Mathlib.Tactic.Common

/-!
Command lines as they are written: a word for each option that is given, in any order, then the verb
and the arguments for the tool. What is written is read again, and whatever stands behind the first
argument reaches the tool unchanged, at the end of its command (`parse_written`).
-/

namespace BuildRunner

/-- The word for a level in a command line. -/
def LogLevel.word : LogLevel → String
  | error => "error"
  | warn => "warn"
  | info => "info"
  | debug => "debug"
  | trace => "trace"

/-! ### How arguments reach the tool -/

/-- The command that a request is made into ends with the arguments of the request. -/
lemma Planner.args_suffix_plan (planner : Planner) (supports : Command → Bool) (request : Request)
    (cwd : Path) :
    request.args <:+ (planner.plan supports request cwd).invocation.command.args := by
  have hvector (subcommand : String) :
      request.args <:+ (planner.invocation request subcommand cwd).command.args := by
    rw [invocation, argumentVector]
    exact List.suffix_append_of_suffix (List.suffix_refl _)
  rw [plan]
  split
  next i hsettled =>
    obtain ⟨-, rfl⟩ | ⟨rule, supported, -, -, rfl⟩ := consult_eq_settled hsettled
    · exact hvector _
    · exact hvector _
  next => exact hvector _

/-- What a session does when a run has been prepared in a directory. -/
def Session.whenPrepared (s : Session) (clock : String) (supports : Command → Bool)
    (p : Preparation) (cwd : Path) : List Effect :=
  let prepared := s.prepare supports p (.ok cwd)
  (prepared.1.handle clock prepared.2.1).1.effects

/-- The run that a session waits for is started, and its arguments end with those of the request. -/
lemma Session.whenPrepared_eq {s : Session} {task : TaskId} {request : Request}
    (hslot : s.core.slot = .preparing task request) (clock : String) (supports : Command → Bool)
    (cwd : Path) :
    ∃ c : Command, s.whenPrepared clock supports ⟨task, request⟩ cwd = [.spawn task c] ∧
      request.args <:+ c.args := by
  refine ⟨_, ?_, s.planner.args_suffix_plan supports request cwd⟩
  simp [whenPrepared, prepare, handle, Core.step, Core.onPrepared, hslot, performAll, perform]

namespace CommandLine

/-! ### How a command line is written -/

/-- The name of an option that takes a value. -/
def ValueOption.name : ValueOption → String
  | config => "config"
  | cwd => "cwd"
  | executable => "executable"
  | logLevel => "log-level"

/-- The name of an option that takes none. -/
def Flag.name : Flag → String
  | noDiagnostics => "no-diagnostics"
  | dryRun => "dry-run"
  | help => "help"
  | version => "version"

/-- The options that say how to run. The others ask for a text. -/
def settings : List Opt :=
  [.value .config, .value .cwd, .value .executable, .value .logLevel, .flag .noDiagnostics,
    .flag .dryRun]

/-- The value that a command line gives to an option. -/
def value? (line : CommandLine) : ValueOption → Option String
  | .config => line.config
  | .cwd => line.cwd
  | .executable => line.executable
  | .logLevel => line.logLevel.map LogLevel.word

/-- Whether a command line raises a flag. -/
def raises (line : CommandLine) : Flag → Bool
  | .noDiagnostics => line.noDiagnostics
  | .dryRun => line.dryRun
  | .help => false
  | .version => false

/-- The word for an option, when the command line gives it. -/
def word? (line : CommandLine) : Opt → Option String
  | .value o => (line.value? o).map fun value => "--" ++ o.name ++ "=" ++ value
  | .flag f => if line.raises f then some ("--" ++ f.name) else none

/-- The words for the options that are given. -/
def options (line : CommandLine) : List String := settings.filterMap line.word?

/-- A word that does not start like an option. -/
def Plain (s : String) : Prop := s.toList.head? ≠ some '-'

instance : DecidablePred Plain := fun _ => inferInstanceAs (Decidable (_ ≠ _))

/-- **A command line that can be written.** A path that is given is not empty, and neither the verb
nor the first argument for the tool starts like an option. The name of the tool and the other
arguments may be anything. -/
structure Writable (line : CommandLine) : Prop where
  config : line.config ≠ some ""
  cwd : line.cwd ≠ some ""
  verb : Plain line.verb
  arg : ∀ a ∈ line.args.head?, Plain a

variable {line : CommandLine} {r : Reading} {o : Opt} {given : List Opt} {s : String}

/-! ### How a word is read -/

/-- Options are still recognised, and none waits for its value. -/
structure Reading.Ready (r : Reading) : Prop where
  settled : r.pending = none
  leading : r.trailing = false

lemma settle_eq (h : r.pending = none) : r.settle = .ok r := by
  rw [Reading.settle, h]

lemma splitOption_value {name : String} (hname : '=' ∉ name.toList) (value : String) :
    splitOption (name.toList ++ '=' :: value.toList) = (name, some value) := by
  have hall : ∀ c ∈ name.toList, decide (c ≠ '=') = true := fun c hc =>
    decide_eq_true fun heq => hname (heq ▸ hc)
  rw [splitOption, List.takeWhile_append_of_pos hall, List.dropWhile_append_of_pos hall]
  simp

/-- An option with a value behind an equals sign is given this value, whatever it is. -/
lemma next_value (hr : r.Ready) (o : ValueOption) (value : String) :
    r.next ("--" ++ o.name ++ "=" ++ value) = r.give o (some value) := by
  have htext : ("--" ++ o.name ++ "=" ++ value).toList =
      '-' :: '-' :: (o.name.toList ++ '=' :: value.toList) := by
    simp [String.toList_append]
  have hsplit : splitOption (o.name.toList ++ '=' :: value.toList) = (o.name, some value) :=
    splitOption_value (by cases o <;> decide) value
  have hname : longOption? o.name = some (.value o) := by cases o <;> rfl
  have hlong : r.long ("--" ++ o.name ++ "=" ++ value) (o.name.toList ++ '=' :: value.toList) =
      r.give o (some value) := by
    simp only [Reading.long, hsplit, hname, settle_eq hr.settled]
    rfl
  -- Two hyphens alone would begin the arguments, but a name follows.
  rw [← hlong, Reading.next, hr.leading, htext]
  cases o <;> rfl

lemma next_flag (hr : r.Ready) (f : Flag) : r.next ("--" ++ f.name) = r.raise f := by
  rw [Reading.next, hr.leading]
  cases f <;> rfl

lemma next_plain (hr : r.Ready) (hs : Plain s) : r.next s = r.word s := by
  have hword : r.valueOrWord s = r.word s := by simp only [Reading.valueOrWord, hr.settled]
  rw [← hword, Reading.next, hr.leading]
  rcases htext : s.toList with _ | ⟨c, cs⟩
  · rfl
  · have hc : c ≠ '-' := by simpa [Plain, htext] using hs
    simp [hc]

/-- The first word is the verb. -/
lemma word_verb (hsettled : r.pending = none) (hverb : r.verb = none) (s : String) :
    r.word s = .ok { r with verb := some s } := by
  simp only [Reading.word, settle_eq hsettled, bind, Except.bind, hverb]

/-- Any further word is an argument for the tool. -/
lemma word_arg (hsettled : r.pending = none) (hverb : r.verb.isSome) (s : String) :
    r.word s = .ok { r with trailing := true, argsReversed := s :: r.argsReversed } := by
  obtain ⟨verb, hverb⟩ := Option.isSome_iff_exists.1 hverb
  simp only [Reading.word, settle_eq hsettled, bind, Except.bind, hverb]

/-! ### How the options are read -/

/-- What has been read of a command line when some of its options have been, in whatever order. -/
def readOf (line : CommandLine) (read : List Opt) : Reading where
  config := if .value .config ∈ read then line.config else none
  cwd := if .value .cwd ∈ read then line.cwd else none
  executable := if .value .executable ∈ read then line.executable else none
  logLevel := if .value .logLevel ∈ read then line.logLevel else none
  noDiagnostics := decide (.flag .noDiagnostics ∈ read) && line.noDiagnostics
  dryRun := decide (.flag .dryRun ∈ read) && line.dryRun

lemma ready_readOf (line : CommandLine) (read : List Opt) : (line.readOf read).Ready := ⟨rfl, rfl⟩

lemma level?_word (level : LogLevel) : level? level.word = some level := by cases level <;> rfl

/-- **An option that has not been read yet** is read as it is written. -/
lemma next_readOf (hline : line.Writable) (hfresh : o ∉ given) (hword : line.word? o = some s) :
    (line.readOf given).next s = .ok (line.readOf (o :: given)) := by
  have hready := ready_readOf line given
  cases o with
  | value o =>
    obtain ⟨value, hvalue, rfl⟩ := Option.map_eq_some_iff.1 hword
    rw [next_value hready]
    cases o with
    | config =>
      have hne : value ≠ "" := fun h => hline.config (h ▸ hvalue)
      have hvalue : line.config = some value := hvalue
      simp [Reading.give, Reading.isGiven, readOf, hfresh, hne, hvalue]
    | cwd =>
      have hne : value ≠ "" := fun h => hline.cwd (h ▸ hvalue)
      have hvalue : line.cwd = some value := hvalue
      simp [Reading.give, Reading.isGiven, readOf, hfresh, hne, hvalue]
    | executable =>
      have hvalue : line.executable = some value := hvalue
      simp [Reading.give, Reading.isGiven, readOf, hfresh, hvalue]
    | logLevel =>
      obtain ⟨level, hlevel, rfl⟩ := Option.map_eq_some_iff.1 hvalue
      simp [Reading.give, Reading.isGiven, readOf, hfresh, hlevel, level?_word]
  | flag f =>
    obtain ⟨hraised, rfl⟩ : line.raises f = true ∧ "--" ++ f.name = s := by
      simpa [word?] using hword
    rw [next_flag hready, Reading.raise, settle_eq hready.settled]
    cases f with
    | noDiagnostics =>
      have hraised : line.noDiagnostics = true := hraised
      simp [readOf, hfresh, hraised, bind, Except.bind]
    | dryRun =>
      have hraised : line.dryRun = true := hraised
      simp [readOf, hfresh, hraised, bind, Except.bind]
    | help => cases hraised
    | version => cases hraised

/-- The words of a command line for options, each beside its option. -/
lemma forall₂_options (line : CommandLine) :
    List.Forall₂ (fun s o => line.word? o = some s) line.options
      (settings.filter fun o => (line.word? o).isSome) := by
  unfold options
  induction settings with
  | nil => exact .nil
  | cons o os ih => rcases hword : line.word? o with _ | s <;> simpa [hword] using ih

/-- Different options that have not been read yet are all read, one behind the other. -/
lemma foldlM_options (hline : line.Writable) {words : List String} {os : List Opt}
    (hwords : List.Forall₂ (fun s o => line.word? o = some s) words os) (hnodup : os.Nodup)
    (hfresh : ∀ o ∈ os, o ∉ given) :
    words.foldlM Reading.next (line.readOf given) = .ok (line.readOf (os.reverse ++ given)) := by
  induction hwords generalizing given with
  | nil => rfl
  | @cons s o words os hword _ ih =>
    obtain ⟨ho, hnodup⟩ := List.nodup_cons.1 hnodup
    rw [List.foldlM_cons, next_readOf hline (hfresh o List.mem_cons_self) hword,
      List.reverse_cons, List.append_assoc]
    refine ih hnodup fun o' ho' hgiven => ?_
    rcases List.mem_cons.1 hgiven with rfl | hgiven
    · exact ho ho'
    · exact hfresh o' (List.mem_cons_of_mem o ho') hgiven

lemma isSome_word?_value (line : CommandLine) (o : ValueOption) :
    (line.word? (.value o)).isSome = (line.value? o).isSome := Option.isSome_map

lemma isSome_word?_flag (line : CommandLine) (f : Flag) :
    (line.word? (.flag f)).isSome = line.raises f := by
  rw [word?]
  cases line.raises f <;> rfl

/-- What has been read when every option that is given has been. -/
lemma readOf_of_mem {os : List Opt} (h : ∀ o, o ∈ os ↔ o ∈ settings ∧ (line.word? o).isSome) :
    line.readOf os = {
      config := line.config, cwd := line.cwd, executable := line.executable
      logLevel := line.logLevel, noDiagnostics := line.noDiagnostics, dryRun := line.dryRun } := by
  -- An option that is not given has nothing to be read.
  have hvalue {α : Type} (o : ValueOption) (x : Option α) (ho : .value o ∈ settings)
      (hx : (line.value? o).isSome = x.isSome) : (if .value o ∈ os then x else none) = x := by
    rw [← isSome_word?_value] at hx
    cases x with
    | none => exact ite_self none
    | some x => exact if_pos ((h _).2 ⟨ho, hx⟩)
  have hflag (f : Flag) (hf : .flag f ∈ settings) :
      (decide (.flag f ∈ os) && line.raises f) = line.raises f := by
    rw [Bool.and_eq_right_iff_imp, ← isSome_word?_flag]
    exact fun hraised => decide_eq_true ((h _).2 ⟨hf, hraised⟩)
  have hlevel : (line.value? .logLevel).isSome = line.logLevel.isSome := Option.isSome_map
  rw [readOf, hvalue .config line.config (by decide) rfl, hvalue .cwd line.cwd (by decide) rfl,
    hvalue .executable line.executable (by decide) rfl,
    hvalue .logLevel line.logLevel (by decide) hlevel]
  congr 1
  · exact hflag .noDiagnostics (by decide)
  · exact hflag .dryRun (by decide)

/-! ### How the arguments are read -/

/-- Behind the first argument every word is one, also one that starts like an option. -/
lemma foldlM_trailing (hsettled : r.pending = none) (hverb : r.verb.isSome)
    (htrailing : r.trailing = true) (words : List String) :
    words.foldlM Reading.next r =
      .ok { r with argsReversed := words.reverse ++ r.argsReversed } := by
  induction words generalizing r with
  | nil => rfl
  | cons s words ih =>
    rw [List.foldlM_cons, Reading.next, if_pos htrailing, word_arg hsettled hverb,
      List.reverse_cons, List.append_assoc, ← htrailing]
    exact ih hsettled hverb htrailing

/-- The arguments are read as they are when the first of them does not start like an option. -/
lemma foldlM_args (hr : r.Ready) (hverb : r.verb.isSome) {args : List String}
    (harg : ∀ a ∈ args.head?, Plain a) :
    args.foldlM Reading.next r = .ok {
      r with trailing := !args.isEmpty, argsReversed := args.reverse ++ r.argsReversed } := by
  cases args with
  | nil =>
    rw [List.isEmpty_nil, Bool.not_true, ← hr.leading]
    rfl
  | cons a args =>
    let argRead : Reading := { r with trailing := true, argsReversed := a :: r.argsReversed }
    have hrest : args.foldlM Reading.next argRead =
        .ok { argRead with argsReversed := args.reverse ++ argRead.argsReversed } :=
      foldlM_trailing (r := argRead) hr.settled hverb rfl args
    rw [List.foldlM_cons, next_plain hr (harg a rfl), word_arg hr.settled hverb,
      List.reverse_cons, List.append_assoc]
    exact hrest

/-- The command line that has been read at the end. -/
lemma finish_eq (hsettled : r.pending = none) {verb : String} (hverb : r.verb = some verb) :
    r.finish = .ok {
      config := r.config, cwd := r.cwd, executable := r.executable, logLevel := r.logLevel
      noDiagnostics := r.noDiagnostics, dryRun := r.dryRun, verb
      args := r.argsReversed.reverse } := by
  simp only [Reading.finish, settle_eq hsettled, bind, Except.bind, hverb]

/-! ### The main statement -/

/-- **A command line is read as it is written.** Let the words for the options that are given stand
in any order in front of the verb and the arguments for the tool. The command line that is read is
then the one that was written. When a run with its arguments has been prepared, the process that is
started gets these last and as they are, whatever stands behind the first one. -/
theorem parse_written (hline : line.Writable) {words : List String}
    (hwords : words.Perm line.options) :
    parse (words ++ line.verb :: line.args) = .ok line ∧
      ∀ (s : Session) task verb force clock supports cwd,
        s.core.slot = .preparing task ⟨verb, line.args, force⟩ →
          ∃ c : Command, line.args <:+ c.args ∧
            s.whenPrepared clock supports ⟨task, verb, line.args, force⟩ cwd = [.spawn task c] := by
  refine ⟨?read, ?reach⟩
  case reach =>
    intro s task verb force clock supports cwd hslot
    obtain ⟨c, hstarted, hargs⟩ := Session.whenPrepared_eq hslot clock supports cwd
    exact ⟨c, hargs, hstarted⟩
  case read =>
    -- An order of the words is an order of the options that they are for.
    obtain ⟨os, hspelled, hperm⟩ := List.perm_comp_forall₂ hwords (forall₂_options line)
    have hnodup : os.Nodup := hperm.nodup_iff.2 ((by decide : settings.Nodup).filter _)
    have hmem (o : Opt) : o ∈ os.reverse ++ [] ↔ o ∈ settings ∧ (line.word? o).isSome := by
      rw [List.append_nil, List.mem_reverse, hperm.mem_iff, List.mem_filter]
    let optionsRead : Reading := {
      config := line.config, cwd := line.cwd, executable := line.executable
      logLevel := line.logLevel, noDiagnostics := line.noDiagnostics, dryRun := line.dryRun }
    let verbRead : Reading := { optionsRead with verb := some line.verb }
    let allRead : Reading := {
      verbRead with trailing := !line.args.isEmpty, argsReversed := line.args.reverse }
    have hoptions : words.foldlM Reading.next {} = .ok optionsRead := by
      have hnothing : line.readOf [] = {} := by simp [readOf]
      rw [← hnothing, foldlM_options hline hspelled hnodup (by simp), readOf_of_mem hmem]
    have hverb : optionsRead.next line.verb = .ok verbRead := by
      rw [next_plain ⟨rfl, rfl⟩ hline.verb, word_verb rfl rfl]
    have hargs : line.args.foldlM Reading.next verbRead = .ok allRead := by
      rw [foldlM_args ⟨rfl, rfl⟩ rfl hline.arg, List.append_nil]
    have hfinish : allRead.finish = .ok line := by
      rw [finish_eq rfl rfl, List.reverse_reverse]
    calc parse (words ++ line.verb :: line.args)
        = ((words.foldlM Reading.next {}) >>= fun r =>
            (line.verb :: line.args).foldlM Reading.next r) >>= Reading.finish := by
          rw [parse, List.foldlM_append]
      _ = (line.verb :: line.args).foldlM Reading.next optionsRead >>= Reading.finish := by
          rw [hoptions]
          rfl
      _ = line.args.foldlM Reading.next verbRead >>= Reading.finish := by
          rw [List.foldlM_cons, hverb]
          rfl
      _ = .ok line := by
          rw [hargs]
          exact hfinish

/-- Options in another order, values that look like options, and arguments that do behind the first
one. -/
theorem parse_written_hyphens :
    let line : CommandLine := {
      config := some "--dry-run", executable := some "a=b", logLevel := some .trace, dryRun := true
      verb := "doc", args := ["x", "--dry-run", "--", "--help", "-V", "--config=", ""] }
    let words := ["--log-level=trace", "--dry-run", "--executable=a=b", "--config=--dry-run"]
    let request : Request := ⟨.doc, line.args, false⟩
    let s := ((Session.new {} true).handle "" (.runRequested request)).1.session
    line.Writable ∧ words.Perm line.options ∧ s.core.slot = .preparing ⟨1⟩ request ∧
      parse (words ++ line.verb :: line.args) = .ok line ∧
      ∃ c : Command, line.args <:+ c.args ∧
        s.whenPrepared "" (fun _ => true) ⟨⟨1⟩, request⟩ ⟨"/w"⟩ = [.spawn ⟨1⟩ c] := by
  intro line words request s
  have harg (a : String) (ha : a ∈ line.args.head?) : Plain a := by
    obtain rfl : "x" = a := Option.some.inj ha
    decide
  have hline : line.Writable := ⟨by decide, by decide, by decide, harg⟩
  have hwords : words.Perm line.options := by decide +kernel
  have hslot : s.core.slot = .preparing ⟨1⟩ request := rfl
  obtain ⟨hparse, hstarted⟩ := parse_written hline hwords
  exact ⟨hline, hwords, hslot, hparse, hstarted s ⟨1⟩ .doc false "" _ ⟨"/w"⟩ hslot⟩

end CommandLine

end BuildRunner
