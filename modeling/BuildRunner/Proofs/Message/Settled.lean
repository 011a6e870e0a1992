import BuildRunner.Proofs.Message.Lines

/-!
The format of many lines. The first line that shows a format settles it (`settled_by_first`): of the
lines before it no diagnostic is read, and from it on every line is read by itself, in that format,
whatever else comes behind the first one.
-/

namespace BuildRunner.Message

/-! ### One line -/

/-- **The format that a line shows**: an object with a reason is an envelope, and one with a level
and spans but no reason is a bare diagnostic. -/
inductive Shows (line : String) : Format → Prop where
  | envelope {v reason : Json} (object : object? line = some v)
    (reason : v.get? "reason" = some reason) : Shows line .envelope
  | bare {v level spans : Json} (object : object? line = some v)
    (noReason : v.get? "reason" = none) (level : v.get? "level" = some level)
    (spans : v.get? "spans" = some spans) : Shows line .bare

/-- What a line holds in a format. -/
def readIn (format : Format) (line : String) : Reading :=
  match object? line with
  | none => .plain
  | some v => readObject format v

/-- What a line holds as long as no format is settled: at most an object, and never a diagnostic. -/
def readUnsettled (line : String) : Reading :=
  match object? line with
  | none => .plain
  | some _ => .skipped

section Line

variable {line : String} {format : Format}

lemma shows_iff : Shows line format ↔ (object? line).bind Format.detect? = some format := by
  constructor
  · rintro (⟨hobject, hreason⟩ | ⟨hobject, hreason, hlevel, hspans⟩)
    · simp [hobject, Format.detect?, Json.has, hreason]
    · simp [hobject, Format.detect?, Json.has, hreason, hlevel, hspans]
  · intro h
    obtain ⟨v, hobject, hdetect⟩ := Option.bind_eq_some_iff.1 h
    unfold Format.detect? at hdetect
    split_ifs at hdetect with hreason hbare
    · obtain ⟨reason, hreason⟩ := Option.isSome_iff_exists.1 hreason
      rw [← Option.some.inj hdetect]
      exact .envelope hobject hreason
    · rw [Bool.and_eq_true] at hbare
      obtain ⟨level, hlevel⟩ := Option.isSome_iff_exists.1 hbare.1
      obtain ⟨spans, hspans⟩ := Option.isSome_iff_exists.1 hbare.2
      rw [← Option.some.inj hdetect]
      exact .bare hobject (Option.not_isSome_iff_eq_none.1 hreason) hlevel hspans

/-- In a settled format a line is read by itself, and the format stays. -/
lemma read_some (format : Format) (line : String) :
    read (some format) line = (readIn format line, some format) := by
  rcases h : object? line with _ | v <;> simp [read, readIn, h]

/-- A line that shows a format is read in it already. -/
lemma read_of_shows (h : Shows line format) :
    read none line = (readIn format line, some format) := by
  obtain ⟨v, hobject, hdetect⟩ := Option.bind_eq_some_iff.1 (shows_iff.1 h)
  simp [read, readIn, hobject, hdetect]

lemma read_of_not_shows (h : ∀ format, ¬ Shows line format) :
    read none line = (readUnsettled line, none) := by
  rcases hobject : object? line with _ | v
  · simp [read, readUnsettled, hobject]
  · have hdetect : Format.detect? v = none := by
      rw [Option.eq_none_iff_forall_ne_some]
      intro format hdetect
      exact h format (shows_iff.2 (by rw [hobject]; exact hdetect))
    simp [read, readUnsettled, hobject, hdetect]

lemma not_isDiagnostic_readUnsettled (line : String) :
    (readUnsettled line).isDiagnostic = false ∧ (readUnsettled line).diagnostic = none := by
  unfold readUnsettled
  split <;> exact ⟨rfl, rfl⟩

end Line

/-! ### Many lines -/

section Lines

variable {before : List String} {format : Format}

lemma readAll_cons {start settled : Option Format} {line : String} {reading : Reading}
    (h : read start line = (reading, settled)) (lines : List String) :
    readAll start (line :: lines) =
      (reading :: (readAll settled lines).1, (readAll settled lines).2) := by
  simp only [readAll, h]

lemma readAll_some (format : Format) (lines : List String) :
    readAll (some format) lines = (lines.map (readIn format), some format) := by
  induction lines with
  | nil => rfl
  | cons line lines ih => rw [readAll_cons (read_some format line), ih, List.map_cons]

/-- Lines that show no format leave it open for those behind them. -/
lemma readAll_append_of_not_shows (h : ∀ line ∈ before, ∀ format, ¬ Shows line format)
    (later : List String) :
    readAll none (before ++ later) =
      (before.map readUnsettled ++ (readAll none later).1, (readAll none later).2) := by
  induction before with
  | nil => rfl
  | cons line before ih =>
    rw [List.forall_mem_cons] at h
    rw [List.cons_append, readAll_cons (read_of_not_shows h.1), ih h.2, List.map_cons,
      List.cons_append]

lemma readAll_of_shows {first : String} (h : Shows first format) (later : List String) :
    readAll none (first :: later) = ((first :: later).map (readIn format), some format) := by
  rw [readAll_cons (read_of_shows h), readAll_some, List.map_cons]

/-- Lines of which one shows a format have a first one that does. -/
lemma exists_first_shows {lines : List String} (h : ∃ line ∈ lines, ∃ format, Shows line format) :
    ∃ before first later format, lines = before ++ first :: later ∧
      (∀ line ∈ before, ∀ format, ¬ Shows line format) ∧ Shows first format := by
  induction lines with
  | nil => simp at h
  | cons line lines ih =>
    by_cases hline : ∃ format, Shows line format
    · obtain ⟨format, hline⟩ := hline
      exact ⟨[], line, lines, format, rfl, by simp, hline⟩
    · have hrest : ∃ line ∈ lines, ∃ format, Shows line format := by
        simpa [hline] using h
      obtain ⟨before, first, later, format, rfl, hbefore, hfirst⟩ := ih hrest
      exact ⟨line :: before, first, later, format, rfl,
        List.forall_mem_cons.2 ⟨not_exists.1 hline, hbefore⟩, hfirst⟩

end Lines

/-- **The first line that shows a format settles it.** Without such a line the format stays open.
Else it is the one which that line shows; what is read of each line from there on depends on the
format and the line alone, so whatever lines were to come behind the first one (`edited`), each of
them would be read as it is here. Of the lines before it, and of all lines when there is none, no
diagnostic is read. -/
theorem settled_by_first (lines : List String) :
    (∀ line, (readUnsettled line).isDiagnostic = false ∧ (readUnsettled line).diagnostic = none) ∧
      ((∀ line ∈ lines, ∀ format, ¬ Shows line format) ∧
          readAll none lines = (lines.map readUnsettled, none) ∨
        ∃ before first later format, lines = before ++ first :: later ∧
          (∀ line ∈ before, ∀ format, ¬ Shows line format) ∧ Shows first format ∧
          ∀ edited, readAll none (before ++ first :: edited) =
            (before.map readUnsettled ++ (first :: edited).map (readIn format), some format)) := by
  refine ⟨not_isDiagnostic_readUnsettled, ?_⟩
  by_cases h : ∃ line ∈ lines, ∃ format, Shows line format
  · obtain ⟨before, first, later, format, rfl, hbefore, hfirst⟩ := exists_first_shows h
    refine .inr ⟨before, first, later, format, rfl, hbefore, hfirst, fun edited => ?_⟩
    rw [readAll_append_of_not_shows hbefore, readAll_of_shows hfirst]
  · have hnone : ∀ line ∈ lines, ∀ format, ¬ Shows line format :=
      fun line hline format hshows => h ⟨line, hline, format, hshows⟩
    have hall := readAll_append_of_not_shows hnone []
    rw [List.append_nil] at hall
    refine .inl ⟨hnone, hall.trans ?_⟩
    simp [readAll]

end BuildRunner.Message
