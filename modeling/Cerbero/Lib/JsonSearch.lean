import Cerbero.Lib.JsonText

/-!
# Lib/JsonSearch — where a text occurs in written JSON

A text of plain characters, with a blank among them, can only stand inside quotation marks, and there
only where the string has it: **`infix_write_iff`**.
-/

namespace Cerbero

namespace Json

/-! ## Parts of a text -/

section

variable {α : Type} {marker : List α} {x : α}

/-- A text with a character that another one lacks is no part of it. -/
theorem not_within {l : List α} (hx : x ∈ marker) (hl : x ∉ l) : ¬ marker <:+: l :=
  fun h => hl (h.subset hx)

/-- A marker does not run over a character it does not have, so behind one nothing counts. -/
theorem prefix_append_cons {l r : List α} (hx : x ∉ marker) :
    marker <+: l ++ x :: r ↔ marker <+: l := by
  refine ⟨fun h => ?_, fun h => h.trans (List.prefix_append _ _)⟩
  have hend : l ++ [x] <+: l ++ x :: r := (List.prefix_append_right_inj l).2 ⟨r, rfl⟩
  obtain h | h := List.prefix_or_prefix_of_prefix h hend
  · obtain rfl | h := List.prefix_concat_iff.1 h
    · exact absurd (List.mem_append_right _ List.mem_cons_self) hx
    · exact h
  · exact absurd (h.subset (List.mem_append_right _ List.mem_cons_self)) hx

/-- **A text without a character occurs before it or after it.** -/
theorem infix_append_cons (hx : x ∉ marker) {r : List α} : ∀ {l : List α},
    marker <:+: l ++ x :: r ↔ marker <:+: l ∨ marker <:+: r
  | [] => by
      rw [List.nil_append, List.infix_cons_iff, ← List.nil_append (x :: r),
        prefix_append_cons hx, List.prefix_nil, List.infix_nil]
  | a :: l => by
      rw [List.cons_append, List.infix_cons_iff, infix_append_cons hx, ← List.cons_append,
        prefix_append_cons hx, List.infix_cons_iff, or_assoc]

/-- A character the marker does not have can be skipped. -/
theorem infix_cons (hx : x ∉ marker) (hne : marker ≠ []) {r : List α} :
    marker <:+: x :: r ↔ marker <:+: r := by
  rw [← List.nil_append (x :: r), infix_append_cons hx, List.infix_nil, or_iff_right hne]

end

/-! ## Texts a writer leaves alone -/

/-- The characters that part the values of a text. -/
def punctuation : List Char := ['"', '\\', ',', ':', '[', ']', '\x7b', '\x7d']

/-- **A text that can be searched for**: it has a blank, its characters are plain, and it begins with
none that an escape can hold. -/
structure Searchable (esc : Char → List Char) (first : Char) (rest : List Char) : Prop where
  blank : ' ' ∈ first :: rest
  plain : ∀ ch ∈ first :: rest, esc ch = [ch] ∧ ch ∉ punctuation
  escape : ∀ ch, esc ch = [ch] ∨ ∃ tail, esc ch = '\\' :: tail ∧ first ∉ tail

section

variable {esc : Char → List Char} {first : Char} {rest : List Char}

/-- No punctuation of JSON is in a searchable marker. -/
theorem Searchable.not_mem (h : Searchable esc first rest) {ch : Char} (hch : ch ∈ punctuation) :
    ch ∉ first :: rest := fun hmem => (h.plain ch hmem).2 hch

/-- Characters the escaping leaves alone are found at the start of the escaped text exactly if they
start the text itself. -/
theorem prefix_flatMap (h : Searchable esc first rest) : ∀ (chars : List Char)
    {marker : List Char}, (∀ ch ∈ marker, esc ch = [ch] ∧ ch ∉ punctuation) →
      (marker <+: chars.flatMap esc ↔ marker <+: chars)
  | _, [], _ => iff_of_true List.nil_prefix List.nil_prefix
  | [], m :: marker, _ => Iff.rfl
  | ch :: chars, m :: marker, hplain => by
      obtain ⟨hm, hout⟩ := hplain m List.mem_cons_self
      have ih := prefix_flatMap h chars fun ch hch =>
        hplain ch (List.mem_cons_of_mem _ hch)
      rw [List.flatMap_cons, List.cons_prefix_cons]
      obtain hch | ⟨tail, hch, -⟩ := h.escape ch
      · rw [hch, List.singleton_append, List.cons_prefix_cons, ih]
      · have hslash : m ≠ '\\' := fun h => hout (h ▸ by decide)
        rw [hch, List.cons_append, List.cons_prefix_cons]
        refine iff_of_false (fun h => hslash h.1) fun heq => hslash ?_
        obtain rfl := heq.1
        exact (List.cons.inj (hm.symm.trans hch)).1

/-- A part without the first character of the marker cannot hold the start of a match. -/
theorem infix_append_left {α : Type} {first : α} {rest r : List α} : ∀ {l : List α}, first ∉ l →
    (first :: rest <:+: l ++ r ↔ first :: rest <:+: r)
  | [], _ => Iff.rfl
  | a :: l, h => by
      have hne : ¬ first :: rest <+: a :: (l ++ r) := fun hp =>
        h ((List.cons_prefix_cons.1 hp).1 ▸ List.mem_cons_self)
      rw [List.cons_append, List.infix_cons_iff, or_iff_right hne,
        infix_append_left fun hmem => h (List.mem_cons_of_mem _ hmem)]

/-- **A written string has the text exactly where the string has it.** -/
theorem infix_flatMap (h : Searchable esc first rest) : ∀ chars : List Char,
    first :: rest <:+: chars.flatMap esc ↔ first :: rest <:+: chars
  | [] => Iff.rfl
  | ch :: chars => by
      have ih := infix_flatMap h chars
      obtain hch | ⟨tail, hch, hfirst⟩ := h.escape ch
      · have hstart := prefix_flatMap h (ch :: chars) h.plain
        rw [List.flatMap_cons, hch, List.singleton_append] at hstart ⊢
        rw [List.infix_cons_iff, List.infix_cons_iff, hstart, ih]
      · obtain ⟨hplain, hout⟩ := h.plain first List.mem_cons_self
        have hslash : first ≠ '\\' := fun h => hout (h ▸ by decide)
        have hne : ¬ first :: rest <+: ch :: chars := fun hp => by
          obtain rfl := (List.cons_prefix_cons.1 hp).1
          exact hslash (List.cons.inj (hplain.symm.trans hch)).1
        rw [List.flatMap_cons, hch, infix_append_left (by simp [hslash, hfirst]),
          List.infix_cons_iff, or_iff_right hne, ih]

/-- The text of a string in quotation marks, and what follows it. -/
theorem infix_quoted (h : Searchable esc first rest) (s : String) {ch : Char}
    (hch : ch ∈ punctuation) (text : List Char) :
    first :: rest <:+: quoted esc s ++ ch :: text ↔
      first :: rest <:+: s.toList ∨ first :: rest <:+: text := by
  have hquote := h.not_mem (show '"' ∈ punctuation by decide)
  have hne : first :: rest ≠ [] := List.cons_ne_nil _ _
  rw [infix_append_cons (h.not_mem hch), quoted, List.cons_append, infix_cons hquote hne,
    infix_append_cons hquote, infix_flatMap h, List.infix_nil, or_iff_left hne]

end

/-! ## Values -/

mutual

/-- The strings of a value: texts and names. -/
def strings : Json → List String
  | .null => []
  | .bool _ => []
  | .number _ => []
  | .string text => [text]
  | .array values => stringsValues values
  | .object members => stringsMembers members

/-- The texts under the values of an array. -/
def stringsValues : List Json → List String
  | [] => []
  | value :: values => strings value ++ stringsValues values

/-- The texts under the members of an object. -/
def stringsMembers : List (String × Json) → List String
  | [] => []
  | member :: members => stringsMember member ++ stringsMembers members

/-- The name of a member is a text of the document like any other. -/
def stringsMember : String × Json → List String
  | (name, value) => name :: strings value

end

section

variable {esc : Char → List Char} {first : Char} {rest : List Char}
  (h : Searchable esc first rest)

include h

mutual

/-- **A written value has the text exactly where one of its strings has it.** -/
theorem infix_write_iff : ∀ {value : Json}, value.WellFormed →
    (first :: rest <:+: write esc value ↔ ∃ s ∈ strings value, first :: rest <:+: s.toList)
  | .null, _ => by
      rw [strings]
      exact iff_of_false (not_within h.blank (by rw [write]; decide)) fun ⟨_, hs, _⟩ => nomatch hs
  | .bool true, _ => by
      rw [strings]
      exact iff_of_false (not_within h.blank (by rw [write]; decide)) fun ⟨_, hs, _⟩ => nomatch hs
  | .bool false, _ => by
      rw [strings]
      exact iff_of_false (not_within h.blank (by rw [write]; decide)) fun ⟨_, hs, _⟩ => nomatch hs
  | .number text, hwell => by
      rw [strings, write]
      refine iff_of_false (not_within h.blank fun hmem => ?_) fun ⟨_, hs, _⟩ => nomatch hs
      exact nomatch List.all_eq_true.1 hwell.2 ' ' hmem
  | .string text, _ => by
      have hquoted := infix_quoted h text (show ',' ∈ punctuation by decide) []
      rw [infix_append_cons (h.not_mem (by decide)), List.infix_nil] at hquoted
      simpa [strings, write] using hquoted
  | .array [], _ => by
      rw [strings, stringsValues]
      exact iff_of_false (not_within h.blank (by rw [write]; decide)) fun ⟨_, hs, _⟩ => nomatch hs
  | .array (value :: values), hwell => by
      rw [strings, stringsValues, write, List.cons_append,
        infix_cons (h.not_mem (by decide)) (List.cons_ne_nil _ _),
        infix_writeElements hwell.2, infix_write_iff hwell.1]
      simp only [List.mem_append, or_and_right, exists_or]
  | .object [], _ => by
      rw [strings, stringsMembers]
      exact iff_of_false (not_within h.blank (by rw [write]; decide)) fun ⟨_, hs, _⟩ => nomatch hs
  | .object (member :: members), hwell => by
      rw [strings, stringsMembers, write, List.cons_append,
        infix_cons (h.not_mem (by decide)) (List.cons_ne_nil _ _),
        infix_writeMembers hwell.2, infix_writeMember hwell.1]
      simp only [List.mem_append, or_and_right, exists_or]

/-- The further values of an array, each behind its comma; what was written before may hold the
marker already. -/
theorem infix_writeElements : ∀ {values : List Json}, WellFormedValues values → ∀ l,
    (first :: rest <:+: l ++ writeElements esc values ↔ first :: rest <:+: l ∨
      ∃ s ∈ stringsValues values, first :: rest <:+: s.toList)
  | [], _, l => by
      rw [writeElements, infix_append_cons (h.not_mem (by decide)), List.infix_nil, stringsValues]
      simp
  | value :: values, hwell, l => by
      rw [writeElements, List.cons_append, infix_append_cons (h.not_mem (by decide)),
        infix_writeElements hwell.2, infix_write_iff hwell.1, stringsValues]
      simp only [List.mem_append, or_and_right, exists_or]

/-- The further members of an object, each behind its comma. -/
theorem infix_writeMembers : ∀ {members : List (String × Json)}, WellFormedMembers members → ∀ l,
    (first :: rest <:+: l ++ writeMembers esc members ↔ first :: rest <:+: l ∨
      ∃ s ∈ stringsMembers members, first :: rest <:+: s.toList)
  | [], _, l => by
      rw [writeMembers, infix_append_cons (h.not_mem (by decide)), List.infix_nil, stringsMembers]
      simp
  | member :: members, hwell, l => by
      rw [writeMembers, List.cons_append, infix_append_cons (h.not_mem (by decide)),
        infix_writeMembers hwell.2, infix_writeMember hwell.1, stringsMembers]
      simp only [List.mem_append, or_and_right, exists_or]

/-- A member: the marker is in its name or in its value, never across the colon. -/
theorem infix_writeMember : ∀ {member : String × Json}, WellFormedMember member →
    (first :: rest <:+: writeMember esc member ↔
      ∃ s ∈ stringsMember member, first :: rest <:+: s.toList)
  | (name, value), hwell => by
      rw [writeMember, infix_quoted h name (by decide), infix_write_iff hwell, stringsMember]
      simp only [List.mem_cons, or_and_right, exists_or, exists_eq_left]

end

end

end Json

end Cerbero
