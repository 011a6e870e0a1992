import BuildRunner.Proofs.Message.Lines
import BuildRunner.Proofs.Message.Told
import BuildRunner.Proofs.Message.Written

/-!
What is not read of a message makes no difference. In each part of a message there are names that
are looked up (`Part.members`); two messages are alike when they agree on those, in every part that
is looked into, however deep (`Alike`). They are then read as the same, and settle the same format.
-/

namespace BuildRunner

/-- What comes later in an object counts before what comes earlier. -/
lemma Json.lookup_append (name : String) (ms ns : List (String × Json)) :
    lookup name (ms ++ ns) = (lookup name ns).or (lookup name ms) := by
  induction ms with
  | nil => rw [List.nil_append, lookup, Option.or_none]
  | cons m ms ih => rw [List.cons_append, lookup, lookup, ih, Option.or_assoc]

namespace Message

/-- The parts of a message that are looked into, and all else. -/
inductive Part where
  /-- A whole message: an envelope, or a bare diagnostic. -/
  | message
  /-- The diagnostic in an envelope. -/
  | diagnostic
  /-- A child of a diagnostic. -/
  | child
  | code
  | span
  /-- How a span came out of a macro. -/
  | expansion
  /-- A list of spans. -/
  | spans
  /-- A list of children. -/
  | children
  /-- What is taken as it is. -/
  | value
  deriving DecidableEq, Repr

namespace Part

/-- The names that are looked up in a part, each with the part that its value is. -/
def members : Part → List (String × Part)
  | message => [("reason", value), ("message", diagnostic), ("level", value), ("spans", spans),
      ("children", children), ("code", code), ("rendered", value)]
  | diagnostic => [("level", value), ("message", value), ("spans", spans), ("children", children),
      ("code", code), ("rendered", value)]
  | child => [("message", value), ("level", value), ("spans", spans), ("code", code)]
  | code => [("code", value)]
  | span => [("file_name", value), ("line_start", value), ("line_end", value),
      ("column_start", value), ("column_end", value), ("is_primary", value), ("label", value),
      ("suggested_replacement", value), ("expansion", expansion)]
  | expansion => [("span", span)]
  | _ => []

/-- What the items of a list are. -/
def item? : Part → Option Part
  | spans => some span
  | children => some child
  | _ => none

end Part

/-- **Two values are alike as a part of a message**: they are the same, or objects that agree on the
names that are looked up in the part, or lists of as many items that are alike. Other names may be
there or not, with any values. -/
inductive Alike : Part → Json → Json → Prop
  | refl (part : Part) (v : Json) : Alike part v v
  | object {part : Part} {ms ns : List (String × Json)} (looked : part.members ≠ [])
      (there : ∀ m ∈ part.members, (Json.lookup m.1 ms).isSome = (Json.lookup m.1 ns).isSome)
      (alike : ∀ m ∈ part.members, ∀ x y, Json.lookup m.1 ms = some x →
        Json.lookup m.1 ns = some y → Alike m.2 x y) :
      Alike part (.object ms) (.object ns)
  | array {part item : Part} {xs ys : List Json} (list : part.item? = some item)
      (length : xs.length = ys.length)
      (alike : ∀ (i : Nat) x y, xs[i]? = some x → ys[i]? = some y → Alike item x y) :
      Alike part (.array xs) (.array ys)

namespace Alike

variable {part item : Part} {v w : Json}

/-! ### What alike values have in common -/

/-- What is taken as it is is the same. -/
lemma eq_of_value (h : Alike .value v w) : v = w := by
  cases h with
  | refl => rfl
  | object looked => exact absurd rfl looked
  | array list => cases list

lemma string?_eq (h : Alike part v w) : v.string? = w.string? := by
  cases h <;> rfl

lemma isSome_object? (h : Alike part v w) : v.object?.isSome = w.object?.isSome := by
  cases h <;> rfl

/-- A name that is looked up is missing in both, or there in both with values that are alike. -/
lemma get?_cases (h : Alike part v w) (name : String) (item : Part)
    (hname : (name, item) ∈ part.members) :
    (v.get? name = none ∧ w.get? name = none) ∨
      ∃ x y, v.get? name = some x ∧ w.get? name = some y ∧ Alike item x y := by
  cases h with
  | refl =>
    rcases hv : v.get? name with _ | x
    · exact .inl ⟨rfl, rfl⟩
    · exact .inr ⟨x, x, rfl, rfl, .refl item x⟩
  | @object _ ms ns looked there alike =>
    have hthere : (Json.lookup name ms).isSome = (Json.lookup name ns).isSome := there _ hname
    show (Json.lookup name ms = none ∧ Json.lookup name ns = none) ∨
      ∃ x y, Json.lookup name ms = some x ∧ Json.lookup name ns = some y ∧ Alike item x y
    rcases hms : Json.lookup name ms with _ | x <;> rcases hns : Json.lookup name ns with _ | y
    · exact .inl ⟨rfl, rfl⟩
    · simp [hms, hns] at hthere
    · simp [hms, hns] at hthere
    · exact .inr ⟨x, y, rfl, rfl, alike _ hname x y hms hns⟩
  | array => exact .inl ⟨rfl, rfl⟩

/-- The items of lists that are alike. -/
lemma items (h : Alike part v w) (hitem : part.item? = some item) :
    List.Forall₂ (Alike item) (v.array?.getD []) (w.array?.getD []) := by
  cases h with
  | refl => exact List.forall₂_same.2 fun x _ => .refl item x
  | object => exact .nil
  | array list length alike =>
    obtain rfl := Option.some.inj (list.symm.trans hitem)
    refine List.forall₂_iff_get.2 ⟨length, fun i hx hy => ?_⟩
    exact alike i _ _ (List.getElem?_eq_getElem hx) (List.getElem?_eq_getElem hy)

lemma get?_eq (h : Alike part v w) (name : String) (hname : (name, .value) ∈ part.members) :
    v.get? name = w.get? name := by
  obtain ⟨hv, hw⟩ | ⟨x, y, hv, hw, hvalue⟩ := h.get?_cases name .value hname
  · rw [hv, hw]
  · rw [hv, hw, hvalue.eq_of_value]

lemma has_eq (h : Alike part v w) (name : String) (item : Part)
    (hname : (name, item) ∈ part.members) :
    v.has name = w.has name := by
  obtain ⟨hv, hw⟩ | ⟨x, y, hv, hw, -⟩ := h.get?_cases name item hname
  · rw [Json.has, Json.has, hv, hw]
  · rw [Json.has, Json.has, hv, hw, Option.isSome_some, Option.isSome_some]

lemma getString?_eq (h : Alike part v w) (name : String) (item : Part)
    (hname : (name, item) ∈ part.members) :
    v.getString? name = w.getString? name := by
  obtain ⟨hv, hw⟩ | ⟨x, y, hv, hw, hvalue⟩ := h.get?_cases name item hname
  · rw [Json.getString?, Json.getString?, hv, hw]
  · rw [Json.getString?, Json.getString?, hv, hw, Option.bind_some, Option.bind_some,
      hvalue.string?_eq]

/-- The items of a member that is a list. -/
lemma itemsOf_rel (h : Alike part v w) (name : String) (list : Part)
    (hname : (name, list) ∈ part.members) (hitem : list.item? = some item) :
    List.Forall₂ (Alike item) (itemsOf v name) (itemsOf w name) := by
  obtain ⟨hv, hw⟩ | ⟨x, y, hv, hw, hlist⟩ := h.get?_cases name list hname
  · rw [itemsOf, itemsOf, hv, hw]
    exact .nil
  · rw [itemsOf, itemsOf, hv, hw]
    exact hlist.items hitem

/-! ### Messages made alike -/

/-- What is to be shown of two objects, name by name. -/
lemma of_lookup {ms ns : List (String × Json)} (looked : part.members ≠ [])
    (h : ∀ name item, (name, item) ∈ part.members →
      (Json.lookup name ms = none ∧ Json.lookup name ns = none) ∨
        ∃ x y, Json.lookup name ms = some x ∧ Json.lookup name ns = some y ∧ Alike item x y) :
    Alike part (.object ms) (.object ns) := by
  refine .object looked (fun m hm => ?_) fun m hm x y hx hy => ?_
  · obtain ⟨hms, hns⟩ | ⟨x, y, hms, hns, -⟩ := h m.1 m.2 hm
    · rw [hms, hns]
    · rw [hms, hns, Option.isSome_some, Option.isSome_some]
  · obtain ⟨hms, -⟩ | ⟨x', y', hms, hns, halike⟩ := h m.1 m.2 hm
    · cases hms.symm.trans hx
    · obtain rfl := Option.some.inj (hms.symm.trans hx)
      obtain rfl := Option.some.inj (hns.symm.trans hy)
      exact halike

/-- Objects whose members are alike one by one are alike; a member that is not looked up may have
any other value. -/
lemma of_members {ms ns : List (String × Json)} (looked : part.members ≠ [])
    (h : List.Forall₂ (fun m n => m.1 = n.1 ∧
      ∀ item, (m.1, item) ∈ part.members → Alike item m.2 n.2) ms ns) :
    Alike part (.object ms) (.object ns) := by
  refine of_lookup looked fun name item hname => ?_
  clear looked
  induction h with
  | nil => exact .inl ⟨rfl, rfl⟩
  | @cons m n ms ns hmn _ ih =>
    obtain ⟨k, x⟩ := m
    obtain ⟨k', y⟩ := n
    obtain ⟨rfl, halike⟩ := hmn
    obtain ⟨hms, hns⟩ | ⟨x', y', hms, hns, hlater⟩ := ih
    · by_cases hk : k = name
      · subst hk
        exact .inr ⟨x, y, by simp [Json.lookup, hms], by simp [Json.lookup, hns], halike item hname⟩
      · exact .inl ⟨by simp [Json.lookup, hms, hk], by simp [Json.lookup, hns, hk]⟩
    · exact .inr ⟨x', y', by simp [Json.lookup, hms], by simp [Json.lookup, hns], hlater⟩

/-- Members that are not looked up may be added to an object. -/
lemma append_others {ms ns others : List (String × Json)} (h : Alike part (.object ms) (.object ns))
    (looked : part.members ≠ [])
    (hothers : ∀ name item, (name, item) ∈ part.members → Json.lookup name others = none) :
    Alike part (.object (ms ++ others)) (.object ns) := by
  refine of_lookup looked fun name item hname => ?_
  rw [Json.lookup_append, hothers name item hname, Option.none_or]
  exact h.get?_cases name item hname

/-- Lists whose items are alike one by one are alike. -/
lemma of_items {xs ys : List Json} (hitem : part.item? = some item)
    (h : List.Forall₂ (Alike item) xs ys) : Alike part (.array xs) (.array ys) := by
  refine .array hitem h.length_eq fun i x y hx hy => ?_
  obtain ⟨hix, rfl⟩ := List.getElem?_eq_some_iff.1 hx
  obtain ⟨hiy, rfl⟩ := List.getElem?_eq_some_iff.1 hy
  exact h.get hix hiy

/-! ### Spans that are alike -/

lemma ofJson?_place (h : Alike .span v w) : Place.ofJson? v = Place.ofJson? w := by
  have hfile := h.getString?_eq "file_name" .value (by decide)
  have hcoordinate (name : String) (hname : (name, .value) ∈ Part.span.members) :
      coordinate? v name = coordinate? w name := by
    rw [coordinate?, coordinate?, Json.getNatural?, Json.getNatural?, h.get?_eq name hname]
  simp only [Place.ofJson?, hfile, hcoordinate "line_start" (by decide),
    hcoordinate "line_end" (by decide), hcoordinate "column_start" (by decide),
    hcoordinate "column_end" (by decide)]

lemma expansion?_cases (h : Alike .span v w) :
    (expansion? v = none ∧ expansion? w = none) ∨
      ∃ x y, expansion? v = some x ∧ expansion? w = some y ∧ Alike .span x y := by
  obtain ⟨hv, hw⟩ | ⟨x, y, hv, hw, hexpansion⟩ :=
    h.get?_cases "expansion" .expansion (by decide)
  · rw [expansion?, expansion?, hv, hw]
    exact .inl ⟨rfl, rfl⟩
  · rw [expansion?, expansion?, hv, hw]
    exact hexpansion.get?_cases "span" .span (by decide)

/-- **Spans that are alike came out of macros at the same places**, however many there are. -/
theorem chain_eq (h : Alike .span v w) : chain v = chain w := by
  -- Along the chain of the one: the other goes on as long, as its expansions are alike.
  induction v using chain.induct generalizing w with
  | case1 v hread => rw [chain_of_none hread, chain_of_none (h.ofJson?_place ▸ hread)]
  | case2 v place hread hnone =>
    obtain ⟨-, hw⟩ | ⟨x, y, hv, -, -⟩ := h.expansion?_cases
    · rw [chain_of_some hread, chain_of_some (h.ofJson?_place ▸ hread), hnone, hw]
    · rw [hnone] at hv
      cases hv
  | case3 v place hread x hsome ih =>
    obtain ⟨hv, -⟩ | ⟨x', y, hv, hw, houter⟩ := h.expansion?_cases
    · rw [hsome] at hv
      cases hv
    · obtain rfl := Option.some.inj (hsome.symm.trans hv)
      rw [chain_of_some hread, chain_of_some (h.ofJson?_place ▸ hread), hsome, hw]
      simp only [Option.map_some, ih houter]

/-- Spans that are alike are read as the same. -/
theorem ofJson?_span (h : Alike .span v w) : Span.ofJson? v = Span.ofJson? w := by
  have hlabel := h.getString?_eq "label" .value (by decide)
  have hreplacement := h.getString?_eq "suggested_replacement" .value (by decide)
  rw [Span.ofJson?, Span.ofJson?, h.chain_eq, h.get?_eq "is_primary" (by decide), hlabel,
    hreplacement]

lemma spansOf_eq (h : Alike part v w) (hspans : ("spans", .spans) ∈ part.members) :
    Message.spansOf v = Message.spansOf w := by
  have hitems := h.itemsOf_rel "spans" .spans hspans rfl
  show (itemsOf v "spans").filterMap Span.ofJson? = (itemsOf w "spans").filterMap Span.ofJson?
  generalize itemsOf v "spans" = xs, itemsOf w "spans" = ys at hitems
  induction hitems with
  | nil => rfl
  | cons hspan _ ih => rw [List.filterMap_cons, List.filterMap_cons, hspan.ofJson?_span, ih]

/-! ### Diagnostics that are alike -/

lemma codeOf_eq (h : Alike part v w) (hcode : ("code", .code) ∈ part.members) :
    codeOf v = codeOf w := by
  obtain ⟨hv, hw⟩ | ⟨x, y, hv, hw, hvalue⟩ := h.get?_cases "code" .code hcode
  · rw [codeOf, codeOf, hv, hw]
  · rw [codeOf, codeOf, hv, hw]
    exact hvalue.getString?_eq "code" .value (by decide)

/-- Children that are alike give rise to the same note. -/
lemma noteOfChild_eq (h : Alike .child v w) (parent : Place) :
    noteOfChild parent v = noteOfChild parent w := by
  have hmessage := h.getString?_eq "message" .value (by decide)
  have hlevel := h.getString?_eq "level" .value (by decide)
  rw [noteOfChild, noteOfChild, hmessage, h.spansOf_eq (by decide), severityOf, severityOf, hlevel,
    h.codeOf_eq (by decide)]

/-- Lists of children that are alike give rise to the same notes. -/
lemma notesOfChildren_eq {xs ys : List Json} (h : List.Forall₂ (Alike .child) xs ys)
    (parent : Place) :
    (xs.filter (·.object?.isSome)).filterMap (noteOfChild parent) =
      (ys.filter (·.object?.isSome)).filterMap (noteOfChild parent) := by
  induction h with
  | nil => rfl
  | cons hchild _ ih =>
    rw [List.filter_cons, List.filter_cons, hchild.isSome_object?]
    split
    · rw [List.filterMap_cons, List.filterMap_cons, hchild.noteOfChild_eq, ih]
    · exact ih

/-- **Diagnostics that are alike are read as the same**, in an envelope or by themselves. -/
theorem diagnosticOf_eq (h : Alike part v w) (hpart : part = .message ∨ part = .diagnostic) :
    diagnosticOf v = diagnosticOf w := by
  have hspans : Message.spansOf v = Message.spansOf w :=
    h.spansOf_eq (by rcases hpart with rfl | rfl <;> decide)
  have hcode : codeOf v = codeOf w := h.codeOf_eq (by rcases hpart with rfl | rfl <;> decide)
  have hlevel : v.getString? "level" = w.getString? "level" :=
    h.getString?_eq "level" .value (by rcases hpart with rfl | rfl <;> decide)
  -- In an envelope the message is no text, but it is no text in either of them.
  have hmessage : v.getString? "message" = w.getString? "message" := by
    rcases hpart with rfl | rfl
    · exact h.getString?_eq "message" .diagnostic (by decide)
    · exact h.getString?_eq "message" .value (by decide)
  have hchildren (place : Place) :
      ((itemsOf v "children").filter (·.object?.isSome)).filterMap (noteOfChild place) =
        ((itemsOf w "children").filter (·.object?.isSome)).filterMap (noteOfChild place) :=
    notesOfChildren_eq (h.itemsOf_rel "children" .children
      (by rcases hpart with rfl | rfl <;> decide) rfl) place
  simp only [itemsOf] at hchildren
  simp only [diagnosticOf, hspans, hcode, severityOf, hlevel, hmessage, hchildren]

/-! ### Messages that are alike -/

/-- Messages that are alike show the same format. -/
lemma detect?_eq (h : Alike .message v w) : Format.detect? v = Format.detect? w := by
  rw [Format.detect?, Format.detect?, h.has_eq "reason" .value (by decide),
    h.has_eq "level" .value (by decide),
    h.has_eq "spans" .spans (by decide)]

/-- The diagnostics in messages that are alike are alike. -/
lemma body?_cases (h : Alike .message v w) (format : Format) :
    (format.body? v = none ∧ format.body? w = none) ∨
      ∃ x y part, format.body? v = some x ∧ format.body? w = some y ∧ Alike part x y ∧
        (part = .message ∨ part = .diagnostic) := by
  cases format with
  | envelope =>
    simp only [Format.body?, h.getString?_eq "reason" .value (by decide)]
    split
    · obtain ⟨hv, hw⟩ | ⟨x, y, hv, hw, hbody⟩ :=
        h.get?_cases "message" .diagnostic (by decide)
      · rw [hv, hw]
        exact .inl ⟨rfl, rfl⟩
      · rw [hv, hw, Option.filter_some, Option.filter_some, hbody.isSome_object?]
        split
        · exact .inr ⟨x, y, .diagnostic, rfl, rfl, hbody, .inr rfl⟩
        · exact .inl ⟨rfl, rfl⟩
    · exact .inl ⟨rfl, rfl⟩
  | bare =>
    simp only [Format.body?, h.has_eq "level" .value (by decide)]
    split
    · exact .inr ⟨v, w, .message, rfl, rfl, h, .inl rfl⟩
    · exact .inl ⟨rfl, rfl⟩

/-- Messages that are alike hold the same, in either format. -/
lemma readObject_eq (h : Alike .message v w) (format : Format) :
    readObject format v = readObject format w := by
  obtain ⟨hv, hw⟩ | ⟨x, y, part, hv, hw, hbody, hpart⟩ := h.body?_cases format
  · rw [readObject, readObject, hv, hw]
  · have hrendered : x.getString? "rendered" = y.getString? "rendered" :=
      hbody.getString?_eq "rendered" .value (by rcases hpart with rfl | rfl <;> decide)
    simp only [readObject, hv, hw, hbody.diagnosticOf_eq hpart, hrendered]

end Alike

/-! ### The main statement -/

/-- **What is not read makes no difference.** Let two lines hold objects that agree on every name that
is looked up, in every part of the message that is looked into. Then they are read as the same,
whatever format is settled on before them, and the same is settled on behind them. -/
theorem read_of_alike {v w : Json} (halike : Alike .message v w) {line other : String}
    (hline : object? line = some v) (hother : object? other = some w) (format : Option Format) :
    read format line = read format other := by
  simp only [read, hline, hother, halike.detect?_eq]
  split
  · rfl
  · rw [halike.readObject_eq]

/-- A message with some more members in each of its parts. -/
def extended (others : List (String × Json)) : Json :=
  let outer : Json := .object ([("file_name", .string "a"), ("line_start", .natural 1)] ++ others)
  let inner : Json := .object ([("file_name", .string "<m>"), ("line_start", .natural 1),
    ("expansion", .object ([("span", outer)] ++ others))] ++ others)
  let child : Json := .object ([("message", .string "note")] ++ others)
  let code : Json := .object ([("code", .string "E1")] ++ others)
  let diagnostic : Json := .object ([("level", .string "error"), ("code", code),
    ("spans", .array [inner]), ("children", .array [child])] ++ others)
  .object ([("reason", .string diagnosticReason), ("message", diagnostic)] ++ others)

lemma alike_extended {others : List (String × Json)}
    (hothers : ∀ part : Part, ∀ name item, (name, item) ∈ part.members →
      Json.lookup name others = none) :
    Alike .message (extended others) (extended []) := by
  have same (part : Part) (m : String × Json) : m.1 = m.1 ∧
      ∀ item, (m.1, item) ∈ part.members → Alike item m.2 m.2 := ⟨rfl, fun item _ => .refl item m.2⟩
  have extend {part : Part} {ms ns : List (String × Json)} (looked : part.members ≠ [])
      (h : List.Forall₂ (fun m n => m.1 = n.1 ∧
        ∀ item, (m.1, item) ∈ part.members → Alike item m.2 n.2) ms ns) :
      Alike part (.object (ms ++ others)) (.object (ns ++ [])) := by
    rw [List.append_nil]
    exact (Alike.of_members looked h).append_others looked (hothers part)
  refine extend (by decide) (.cons (same _ _) (.cons ⟨rfl, fun item hitem => ?_⟩ .nil))
  obtain rfl : item = .diagnostic := by simpa [Part.members] using hitem
  refine extend (by decide) (.cons (same _ _) (.cons ⟨rfl, fun item hitem => ?_⟩
    (.cons ⟨rfl, fun item hitem => ?_⟩ (.cons ⟨rfl, fun item hitem => ?_⟩ .nil))))
  · obtain rfl : item = .code := by simpa [Part.members] using hitem
    exact extend (by decide) (.cons (same _ _) .nil)
  · obtain rfl : item = .spans := by simpa [Part.members] using hitem
    refine .of_items rfl (.cons (extend (by decide) (.cons (same _ _) (.cons (same _ _)
      (.cons ⟨rfl, fun item hitem => ?_⟩ .nil)))) .nil)
    obtain rfl : item = .expansion := by simpa [Part.members] using hitem
    refine extend (by decide) (.cons ⟨rfl, fun item hitem => ?_⟩ .nil)
    obtain rfl : item = .span := by simpa [Part.members] using hitem
    exact extend (by decide) (.cons (same _ _) (.cons (same _ _) .nil))
  · obtain rfl : item = .children := by simpa [Part.members] using hitem
    exact .of_items rfl (.cons (extend (by decide) (.cons (same _ _) .nil)) .nil)

/-- A message with members that nobody knows yet is read as the one without them, and that is a
diagnostic. -/
theorem read_of_alike_extended :
    let others : List (String × Json) := [("version", .object [("level", .string "warning")])]
    let line := (extended others).render
    let other := (extended []).render
    Alike .message (extended others) (extended []) ∧ object? line = some (extended others) ∧
      object? other = some (extended []) ∧ read none line = read none other ∧
      (read none other).1.diagnostic.isSome = true := by
  intro others line other
  have halike : Alike .message (extended others) (extended []) := by
    refine alike_extended fun part name item hname => ?_
    have hversion : "version" ≠ name := by
      rintro rfl
      cases part <;> simp [Part.members] at hname
    simp [others, Json.lookup, hversion]
  have hwritable (others : List (String × Json)) (h : Json.MembersWritable others) :
      (extended others).Writable := by
    simp [extended, Json.Writable, Json.MembersWritable, Json.AllWritable, h]
  have hline : object? line = some (extended others) :=
    object?_render (hwritable others ⟨⟨trivial, trivial⟩, trivial⟩)
  have hother : object? other = some (extended []) := object?_render (hwritable [] trivial)
  have hdiagnostic : (read none other).1.diagnostic.isSome = true := by
    rw [read, hother]
    show (readObject .envelope (extended [])).diagnostic.isSome = true
    decide +kernel
  exact ⟨halike, hline, hother, read_of_alike halike hline hother none, hdiagnostic⟩

end Message

end BuildRunner
