import BuildRunner.Proofs.Message.Coordinates

/-!
Spans that came out of macros. A span that can be read is the first link of a chain, and the span
that it was expanded at is the next one, as long as there is one that can be read (`Link`). A span
is read with the place that each of its links names, and resolves to that of the first link in a
file; a link that cannot be read ends the chain, and takes nothing from those inside it
(`first_link_resolved`).
-/

namespace BuildRunner.Message

/-! ### Places -/

/-- **The place that a span names**: its file, and the range of its coordinates, as far as they
fit. -/
structure Names (w : Json) (place : Place) : Prop where
  file : w.getString? "file_name" = some place.file
  range : ∃ c, Spells w c ∧
    place.range = .ofTool (clamp c.line) (clamp c.column) (clamp c.lineEnd) (clamp c.columnEnd)

variable {v w outer : Json} {place : Place} {n : Nat}

lemma Spells.unique {c c' : Coordinates} (h : Spells w c) (h' : Spells w c') : c = c' := by
  have hline : c.line = c'.line := Option.some.inj (h.line.symm.trans h'.line)
  have hcolumn : c.column = c'.column := h.column.trans h'.column.symm
  have hlineEnd : c.lineEnd = c'.lineEnd := by rw [h.lineEnd, h'.lineEnd, hline]
  have hcolumnEnd : c.columnEnd = c'.columnEnd := by rw [h.columnEnd, h'.columnEnd, hcolumn]
  cases c
  cases c'
  simp_all only

lemma Names.unique {place' : Place} (h : Names w place) (h' : Names w place') : place = place' := by
  obtain ⟨c, hspells, hrange⟩ := h.range
  obtain ⟨c', hspells', hrange'⟩ := h'.range
  obtain rfl := hspells.unique hspells'
  have hfile : place.file = place'.file := Option.some.inj (h.file.symm.trans h'.file)
  cases place
  cases place'
  simp_all only

lemma names_of_ofJson? (h : Place.ofJson? w = some place) : Names w place := by
  obtain ⟨⟨hfile, -⟩, heq⟩ := readable_of_ofJson? h
  obtain ⟨file, hfile⟩ := Option.isSome_iff_exists.1 hfile
  refine ⟨?_, exists_spells h⟩
  rw [heq, textOf, hfile]
  rfl

lemma exists_ofJson? (h : Readable w) : ∃ place, Place.ofJson? w = some place :=
  Option.isSome_iff_exists.1 (isSome_ofJson?_place.2 h)

lemma Names.readable (h : Names w place) : Readable w := by
  obtain ⟨c, hspells, -⟩ := h.range
  exact ⟨by rw [h.file]; rfl, by rw [hspells.line]; rfl⟩

/-- **A place is read as its span names it.** -/
lemma ofJson?_place_iff : Place.ofJson? w = some place ↔ Names w place := by
  refine ⟨names_of_ofJson?, fun h => ?_⟩
  obtain ⟨read, hread⟩ := exists_ofJson? h.readable
  rw [hread, (names_of_ofJson? hread).unique h]

lemma Names.inFile_iff (h : Names w place) :
    RealFile (textOf w "file_name") ↔ isRealFile place.file = true := by
  rw [textOf, h.file, Option.getD_some, isRealFile_iff]

/-! ### Links -/

/-- **A link of the chain of a span**, numbered outwards from the span itself. -/
inductive Link : Json → Nat → Json → Prop where
  | own {v : Json} (readable : Readable v) : Link v 0 v
  | outwards {v outer w : Json} {n : Nat} (readable : Readable v)
    (expanded : expansion? v = some outer) (further : Link outer n w) : Link v (n + 1) w

/-- **The first link that lies in a file**, from the span itself outwards. -/
structure FirstInFile (v : Json) (n : Nat) (w : Json) : Prop where
  link : Link v n w
  inFile : RealFile (textOf w "file_name")
  inside : ∀ m u, m < n → Link v m u → ¬ RealFile (textOf u "file_name")

lemma Link.readable (h : Link v n w) : Readable w := by
  induction h with
  | own readable => exact readable
  | outwards _ _ _ ih => exact ih

/-- The places of a span: its own, and those it was expanded at. -/
def Span.places (s : Span) : List Place := s.place :: s.expandedAt

lemma places_of_ofJson? {s : Span} (h : Span.ofJson? v = some s) : s.places = chain v := by
  rw [Span.ofJson?] at h
  rcases hchain : chain v with _ | ⟨place, expandedAt⟩
  · simp [hchain] at h
  · simp only [hchain, Option.some.injEq] at h
    rw [← h, Span.places]

/-- **The places in a chain** are those that its links name. -/
lemma getElem?_chain : (chain v)[n]? = some place ↔ ∃ w, Link v n w ∧ Names w place := by
  -- Seen from the next span outwards, a link has one number less.
  induction n generalizing v with
  | zero =>
    constructor
    · intro h
      rcases hread : Place.ofJson? v with _ | inner
      · simp [chain_of_none hread] at h
      · obtain rfl : inner = place := by simpa [chain_of_some hread] using h
        have hnames := names_of_ofJson? hread
        exact ⟨v, .own hnames.readable, hnames⟩
    · rintro ⟨w, ⟨-⟩, hnames⟩
      simp [chain_of_some (ofJson?_place_iff.2 hnames)]
  | succ n ih =>
    constructor
    · intro h
      rcases hread : Place.ofJson? v with _ | inner
      · simp [chain_of_none hread] at h
      · rw [chain_of_some hread] at h
        rcases hexpanded : expansion? v with _ | outer
        · simp [hexpanded] at h
        · have h : (chain outer)[n]? = some place := by simpa [hexpanded] using h
          obtain ⟨w, hlink, hnames⟩ := ih.1 h
          exact ⟨w, .outwards (names_of_ofJson? hread).readable hexpanded hlink, hnames⟩
    · rintro ⟨w, ⟨⟩ | ⟨hreadable, hexpanded, hlink⟩, hnames⟩
      obtain ⟨inner, hread⟩ := exists_ofJson? hreadable
      simpa [chain_of_some hread, hexpanded] using ih.2 ⟨w, hlink, hnames⟩

/-- Each link has its place in the chain. -/
lemma Link.exists_getElem? (h : Link v n w) :
    ∃ place, Names w place ∧ (chain v)[n]? = some place := by
  obtain ⟨place, hread⟩ := exists_ofJson? h.readable
  have hnames := names_of_ofJson? hread
  exact ⟨place, hnames, getElem?_chain.2 ⟨w, h, hnames⟩⟩

/-- A chain ends behind a link when there is no further one that can be read. -/
lemma length_chain (h : Link v n w)
    (hend : ∀ outer, expansion? w = some outer → ¬ Readable outer) :
    (chain v).length = n + 1 := by
  induction h with
  | @own v hreadable =>
    obtain ⟨place, hread⟩ := exists_ofJson? hreadable
    rw [chain_of_some hread]
    rcases hexpanded : expansion? v with _ | outer
    · rfl
    · have hnone : Place.ofJson? outer = none := by
        simpa [isSome_ofJson?_place.symm] using hend outer hexpanded
      simp [chain_of_none hnone]
  | outwards hreadable hexpanded _ ih =>
    obtain ⟨place, hread⟩ := exists_ofJson? hreadable
    simp [chain_of_some hread, hexpanded, ih hend]

/-! ### Where a span resolves to -/

lemma resolve?_eq_find? (v : Json) :
    (Span.ofJson? v).bind Span.resolve? = (chain v).find? (isRealFile ·.file) :=
  Option.ext fun _ => resolve?_ofJson?.trans resolves_iff

lemma resolve?_eq_some_iff : (Span.ofJson? v).bind Span.resolve? = some place ↔
    ∃ n w, FirstInFile v n w ∧ Names w place := by
  rw [resolve?_eq_find?, List.find?_eq_some_iff_getElem]
  constructor
  · rintro ⟨hfile, n, hn, hplace, hinside⟩
    obtain ⟨w, hlink, hnames⟩ := getElem?_chain.1 (List.getElem?_eq_some_iff.2 ⟨hn, hplace⟩)
    refine ⟨n, w, ⟨hlink, hnames.inFile_iff.2 hfile, fun m u hm hu => ?_⟩, hnames⟩
    obtain ⟨inner, hinner, hm'⟩ := hu.exists_getElem?
    obtain ⟨_, rfl⟩ := List.getElem?_eq_some_iff.1 hm'
    have hfile := hinside m hm
    rw [hinner.inFile_iff]
    simpa using hfile
  · rintro ⟨n, w, ⟨hlink, hfile, hinside⟩, hnames⟩
    obtain ⟨hn, hplace⟩ := List.getElem?_eq_some_iff.1 (getElem?_chain.2 ⟨w, hlink, hnames⟩)
    refine ⟨hnames.inFile_iff.1 hfile, n, hn, hplace, fun m hm => ?_⟩
    obtain ⟨u, hu, hinner⟩ := getElem?_chain.1 (List.getElem?_eq_getElem (hm.trans hn))
    have hfile := hinside m u hm hu
    rw [hinner.inFile_iff] at hfile
    simpa using hfile

lemma resolve?_eq_none_iff : (Span.ofJson? v).bind Span.resolve? = none ↔
    ∀ n w, Link v n w → ¬ RealFile (textOf w "file_name") := by
  rw [resolve?_eq_find?, List.find?_eq_none]
  constructor
  · intro hnone n w hlink
    obtain ⟨place, hnames, hplace⟩ := hlink.exists_getElem?
    rw [hnames.inFile_iff]
    exact hnone place (List.mem_of_getElem? hplace)
  · intro hnone place hplace
    obtain ⟨n, hn⟩ := List.mem_iff_getElem?.1 hplace
    obtain ⟨w, hlink, hnames⟩ := getElem?_chain.1 hn
    rw [← hnames.inFile_iff]
    exact hnone n w hlink

/-! ### The main statement -/

/-- **A span resolves to the first link in a file.** What a span was expanded at does not decide
whether it is read. It is read with one place for each link of its chain, the one that the link
names; where the next link is missing or cannot be read, those inside it are all there. It resolves
to the place of the first link in a file, from the span itself outwards, and to nothing exactly when
no link lies in a file. -/
theorem first_link_resolved (v : Json) :
    ((Span.ofJson? v).isSome ↔ Readable v) ∧
    (∀ s, Span.ofJson? v = some s → ∀ n place,
      s.places[n]? = some place ↔ ∃ w, Link v n w ∧ Names w place) ∧
    (∀ n w, Link v n w → (∀ outer, expansion? w = some outer → ¬ Readable outer) →
      ∃ s, Span.ofJson? v = some s ∧ s.places.length = n + 1) ∧
    (∀ place, (Span.ofJson? v).bind Span.resolve? = some place ↔
      ∃ n w, FirstInFile v n w ∧ Names w place) ∧
    ((Span.ofJson? v).bind Span.resolve? = none ↔
      ∀ n w, Link v n w → ¬ RealFile (textOf w "file_name")) := by
  refine ⟨isSome_ofJson?, fun s hs n place => ?_, fun n w hlink hend => ?_,
    fun place => resolve?_eq_some_iff, resolve?_eq_none_iff⟩
  · rw [places_of_ofJson? hs]
    exact getElem?_chain
  · have hreadable : Readable v := by
      cases hlink with
      | own readable => exact readable
      | outwards readable => exact readable
    obtain ⟨s, hs⟩ := Option.isSome_iff_exists.1 (isSome_ofJson?.2 hreadable)
    refine ⟨s, hs, ?_⟩
    rw [places_of_ofJson? hs, length_chain hlink hend]

/-- A span in a macro, expanded at a place without a name, that at one in a file, and that at what
cannot be read. -/
theorem first_link_resolved_cut :
    let cut : Json := .object [("file_name", .natural 5), ("line_start", .natural 1)]
    let third : Json := .object [("file_name", .string "a"), ("line_start", .natural 7),
      ("expansion", .object [("span", cut)])]
    let second : Json := .object [("file_name", .string ""), ("line_start", .natural 2),
      ("expansion", .object [("span", third)])]
    let v : Json := .object [("file_name", .string "<m>"), ("line_start", .natural 3),
      ("column_start", .natural 9), ("expansion", .object [("span", second)])]
    let place : Place := ⟨"a", ⟨6, 0⟩, ⟨6, 0⟩⟩
    FirstInFile v 2 third ∧ Names third place ∧ ¬ Readable cut ∧
      (∃ s, Span.ofJson? v = some s ∧ s.places.length = 3) ∧
      (Span.ofJson? v).bind Span.resolve? = some place := by
  intro cut third second v place
  have hv : Readable v := by decide
  have hsecond : Readable second := by decide
  have hthird : Readable third := by decide
  have hcut : ¬ Readable cut := by decide
  have hlink : Link v 2 third := .outwards hv rfl (.outwards hsecond rfl (.own hthird))
  have hinside (m : Nat) (u : Json) (hm : m < 2) (hu : Link v m u) :
      ¬ RealFile (textOf u "file_name") := by
    rw [← isRealFile_iff]
    rcases hu with _ | ⟨-, hexpanded, hu⟩
    · decide
    · obtain rfl : second = _ := Option.some.inj hexpanded
      rcases hu with _ | _
      · decide
      · omega
  have hfirst : FirstInFile v 2 third := ⟨hlink, isRealFile_iff.1 (by decide), hinside⟩
  have hnames : Names third place := names_of_ofJson? rfl
  obtain ⟨-, -, hkept, hfound, -⟩ := first_link_resolved v
  refine ⟨hfirst, hnames, hcut, hkept 2 third hlink ?_, (hfound place).2 ⟨2, third, hfirst, hnames⟩⟩
  intro outer houter
  obtain rfl : cut = outer := Option.some.inj houter
  exact hcut

end BuildRunner.Message
