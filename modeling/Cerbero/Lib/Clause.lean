import Mathlib.Data.List.Basic
import Mathlib.Tactic.Common

/-!
# Lib/Clause — reading a condition at its top level

A condition is read as words, which are separated by blanks outside parentheses and quotation marks.
A word is **solid** if its parentheses and marks are closed and it has no blank outside them; a text
of solid words with blanks between them has just these words (**`topWords_intercalate`**).  In
between, `disjuncts` reads `OR` and `AND` with their precedence, and `places` the placeholders.
-/

namespace Cerbero

namespace Clause

/-! ## Scanning -/

/-- Where a scan is: how many parentheses are open, and whether a quotation mark is. -/
structure Position where
  depth : ℕ
  quoted : Bool
  deriving DecidableEq, Repr

/-- One character.  Closing what was not opened is an error; so is a blank outside parentheses,
unless blanks are let through. -/
def advance (blanks : Bool) : Position → Char → Option Position
  | ⟨depth, true⟩, ch => some ⟨depth, ch ≠ '\''⟩
  | ⟨depth, false⟩, ch =>
    if ch = '\'' then some ⟨depth, true⟩
    else if ch = '(' then some ⟨depth + 1, false⟩
    else if ch = ')' then if depth = 0 then none else some ⟨depth - 1, false⟩
    else if ch = ' ' ∧ depth = 0 ∧ blanks = false then none
    else some ⟨depth, false⟩

/-- A whole text. -/
def scan (blanks : Bool) : Position → List Char → Option Position
  | position, [] => some position
  | position, ch :: text =>
    match advance blanks position ch with
    | none => none
    | some position => scan blanks position text

/-- The start of a text. -/
def outside : Position := ⟨0, false⟩

/-- Everything that is opened is closed. -/
def Balanced (text : List Char) : Prop := scan true outside text = some outside

/-- Everything that is opened is closed, and there is no blank outside. -/
def Solid (text : List Char) : Prop := scan false outside text = some outside

instance (text : List Char) : Decidable (Balanced text) := inferInstanceAs (Decidable (_ = _))

instance (text : List Char) : Decidable (Solid text) := inferInstanceAs (Decidable (_ = _))

/-- A text is scanned from where the one before it ends. -/
theorem scan_append {blanks : Bool} : ∀ {text text' : List Char} {p p' : Position},
    scan blanks p text = some p' → scan blanks p (text ++ text') = scan blanks p' text'
  | [], _, _, _, h => by rw [← Option.some.inj h]; rfl
  | ch :: text, text', p, p', h => by
      rw [List.cons_append]
      rw [scan] at h ⊢
      match hstep : advance blanks p ch, h with
      | some q, h => exact scan_append h

/-- Two balanced texts are balanced side by side. -/
theorem Balanced.append {text text' : List Char} (h : Balanced text) (h' : Balanced text') :
    Balanced (text ++ text') := (scan_append h).trans h'

/-- Two texts without a blank at the top have none side by side. -/
theorem Solid.append {text text' : List Char} (h : Solid text) (h' : Solid text') :
    Solid (text ++ text') := (scan_append h).trans h'

/-- What is passed where blanks are refused is passed where they are not. -/
theorem advance_balanced {p p' : Position} {ch : Char} (h : advance false p ch = some p') :
    advance true p ch = some p' := by
  obtain ⟨depth, quoted⟩ := p
  match quoted with
  | true => exact h
  | false =>
    simp only [advance] at h ⊢
    split_ifs at h ⊢ <;> simp_all

/-- So a solid text is a balanced one. -/
theorem scan_balanced : ∀ {text : List Char} {p p' : Position}, scan false p text = some p' →
    scan true p text = some p'
  | [], _, _, h => h
  | ch :: text, p, p', h => by
      rw [scan] at h ⊢
      match hstep : advance false p ch, h with
      | some q, h =>
        rw [advance_balanced hstep]
        exact scan_balanced h

/-- A text without quotes, parentheses and blanks goes by without a trace. -/
theorem scan_of_plain : ∀ {text : List Char}, (∀ ch ∈ text, ch ∉ ['\'', '(', ')', ' ']) →
    scan false outside text = some outside
  | [], _ => rfl
  | ch :: text, h => by
      have hch := h ch List.mem_cons_self
      simp only [List.mem_cons, List.not_mem_nil, or_false, not_or] at hch
      have hstep : advance false outside ch = some outside := by
        simp [advance, outside, hch]
      rw [scan, hstep]
      exact scan_of_plain fun c hmem => h c (List.mem_cons_of_mem _ hmem)

/-- A text without marks, parentheses and blanks is solid. -/
theorem solid_of_plain {text : List Char} (h : ∀ ch ∈ text, ch ∉ ['\'', '(', ')', ' ']) :
    Solid text := scan_of_plain h

/-- A solid text is balanced. -/
theorem Solid.balanced {text : List Char} (h : Solid text) : Balanced text := scan_balanced h

/-- One level further down blanks are no longer at the top. -/
theorem advance_deeper {p p' : Position} {ch : Char} (h : advance true p ch = some p') :
    advance false ⟨p.depth + 1, p.quoted⟩ ch = some ⟨p'.depth + 1, p'.quoted⟩ := by
  obtain ⟨depth, quoted⟩ := p
  obtain ⟨depth', quoted'⟩ := p'
  match quoted with
  | true =>
    obtain ⟨rfl, rfl⟩ := Position.mk.inj (Option.some.inj h)
    rfl
  | false =>
    simp only [advance] at h ⊢
    split_ifs at h ⊢ <;> simp_all
    omega

/-- **What is balanced is solid inside parentheses.** -/
theorem scan_deeper : ∀ {text : List Char} {p p' : Position}, scan true p text = some p' →
    scan false ⟨p.depth + 1, p.quoted⟩ text = some ⟨p'.depth + 1, p'.quoted⟩
  | [], _, _, h => by rw [← Option.some.inj h]; rfl
  | ch :: text, p, p', h => by
      rw [scan] at h ⊢
      match hstep : advance true p ch, h with
      | some q, h =>
        rw [advance_deeper hstep]
        exact scan_deeper h

/-- **A balanced text in parentheses is solid.** -/
theorem Balanced.parenthesised {text : List Char} (h : Balanced text) :
    Solid ('(' :: (text ++ [')'])) := by
  have hinner : scan false ⟨1, false⟩ text = some ⟨1, false⟩ := scan_deeper h
  show scan false ⟨1, false⟩ (text ++ [')']) = some outside
  rw [scan_append hinner]
  rfl

/-! ## Words -/

/-- The texts between the blanks outside parentheses and quotation marks. -/
def topWords : Position → List Char → List (List Char)
  | _, [] => [[]]
  | position, ch :: text =>
    match advance false position ch with
    | some position => (topWords position text).modifyHead (ch :: ·)
    | none =>
      if ch = ' ' then [] :: topWords outside text
      else (topWords position text).modifyHead (ch :: ·)

/-- There is always a word, if only an empty one. -/
theorem topWords_ne_nil : ∀ (p : Position) (text : List Char), topWords p text ≠ []
  | _, [] => List.cons_ne_nil _ _
  | p, ch :: text => by
      rw [topWords]
      split
      · exact fun h => topWords_ne_nil _ text (List.modifyHead_eq_nil_iff.1 h)
      · split_ifs
        · exact List.cons_ne_nil _ _
        · exact fun h => topWords_ne_nil _ text (List.modifyHead_eq_nil_iff.1 h)

/-- A character in front of the first word is a character in front of the whole. -/
theorem intercalate_modifyHead {sep : List Char} {ch : Char} : ∀ {words : List (List Char)},
    words ≠ [] → sep.intercalate (words.modifyHead (ch :: ·)) = ch :: sep.intercalate words
  | _ :: _, _ => List.intercalate_cons_cons_left

/-- A text is its words with blanks between them. -/
theorem intercalate_topWords : ∀ (p : Position) (text : List Char),
    [' '].intercalate (topWords p text) = text
  | _, [] => rfl
  | p, ch :: text => by
      rw [topWords]
      split
      · rw [intercalate_modifyHead (topWords_ne_nil _ _), intercalate_topWords]
      · split_ifs with hch
        · rw [List.intercalate_cons_of_ne_nil (topWords_ne_nil _ _), intercalate_topWords, hch]
          rfl
        · rw [intercalate_modifyHead (topWords_ne_nil _ _), intercalate_topWords]

/-- A solid text belongs to the word that follows it. -/
theorem topWords_append (rest : List Char) : ∀ {text : List Char} {p p' : Position},
    scan false p text = some p' →
    topWords p (text ++ rest) = (topWords p' rest).modifyHead (text ++ ·)
  | [], p, p', h => by
      rw [← Option.some.inj h]
      exact (congrFun List.modifyHead_id _).symm
  | ch :: text, p, p', h => by
      rw [scan] at h
      rw [List.cons_append, topWords]
      match hstep : advance false p ch, h with
      | some q, h =>
        show (topWords q (text ++ rest)).modifyHead (ch :: ·) = _
        rw [topWords_append rest h, List.modifyHead_modifyHead]
        rfl

/-- Solid words with blanks between them. -/
structure Words (text : List Char) (words : List (List Char)) : Prop where
  ne_nil : words ≠ []
  solid : ∀ word ∈ words, Solid word
  text_eq : text = [' '].intercalate words

/-- A solid text is one word. -/
theorem Solid.words {word : List Char} (h : Solid word) : Words word [word] :=
  ⟨List.cons_ne_nil _ _, fun _ hmem => (List.mem_singleton.1 hmem) ▸ h,
    List.intercalate_singleton.symm⟩

/-- Two lists of words with something in each are joined by one separator more. -/
theorem intercalate_append {sep : List Char} : ∀ {xs ys : List (List Char)}, xs ≠ [] → ys ≠ [] →
    sep.intercalate (xs ++ ys) = sep.intercalate xs ++ sep ++ sep.intercalate ys
  | [x], y :: ys, _, _ => by simp
  | x :: x' :: xs, ys, _, hys => by
      have ih : sep.intercalate (x' :: xs ++ ys) = _ :=
        intercalate_append (List.cons_ne_nil x' xs) hys
      simp only [List.cons_append, List.intercalate_cons_cons] at ih ⊢
      simp only [ih, List.append_assoc]

/-- Two texts with a blank between them have the words of both. -/
theorem Words.append {text text' : List Char} {words words' : List (List Char)}
    (h : Words text words) (h' : Words text' words') :
    Words (text ++ ' ' :: text') (words ++ words') where
  ne_nil := List.append_ne_nil_of_left_ne_nil h.ne_nil _
  solid := fun word hmem => (List.mem_append.1 hmem).elim (h.solid word) (h'.solid word)
  text_eq := by
    rw [intercalate_append h.ne_nil h'.ne_nil, ← h.text_eq, ← h'.text_eq]
    simp

/-- **The words of a text of solid words are these.** -/
theorem topWords_intercalate : ∀ {words : List (List Char)}, words ≠ [] →
    (∀ word ∈ words, Solid word) → topWords outside ([' '].intercalate words) = words
  | [word], _, h => by
      have := topWords_append [] (h word (List.mem_singleton_self _))
      simpa [topWords] using this
  | word :: word' :: words, _, h => by
      have ih := topWords_intercalate (List.cons_ne_nil word' words)
        fun w hmem => h w (List.mem_cons_of_mem _ hmem)
      have hblank : advance false outside ' ' = none := rfl
      rw [List.intercalate_cons_cons, List.append_assoc,
        topWords_append _ (h word List.mem_cons_self), List.singleton_append, topWords, hblank, ih]
      simp

/-- **The words of a text are unique**: they are what the scanner finds. -/
theorem Words.topWords {text : List Char} {words : List (List Char)} (h : Words text words) :
    topWords outside text = words := by
  rw [h.text_eq]
  exact topWords_intercalate h.ne_nil h.solid

/-- Balanced texts are balanced when they are joined by a balanced separator. -/
theorem balanced_intercalate {sep : List Char} (hsep : Balanced sep) :
    ∀ {texts : List (List Char)}, (∀ text ∈ texts, Balanced text) → Balanced (sep.intercalate texts)
  | [], _ => rfl
  | [text], h => by
      rw [List.intercalate_singleton]
      exact h text (List.mem_singleton_self _)
  | text :: text' :: texts, h => by
      have ih : Balanced (sep.intercalate (text' :: texts)) :=
        balanced_intercalate hsep fun t hmem => h t (List.mem_cons_of_mem _ hmem)
      rw [List.intercalate_cons_cons]
      exact ((h text List.mem_cons_self).append hsep).append ih

/-- A text with words is balanced. -/
theorem Words.balanced {text : List Char} {words : List (List Char)} (h : Words text words) :
    Balanced text := by
  have hblank : Balanced [' '] := rfl
  rw [h.text_eq]
  exact balanced_intercalate hblank fun word hmem => (h.solid word hmem).balanced

/-! ## Conjunctions -/

/-- The words that join conditions. -/
def connectives : List (List Char) := [['A', 'N', 'D'], ['O', 'R'], ['N', 'O', 'T']]

/-- A condition whose top level has no connective. -/
def Conjunct (text : List Char) : Prop :=
  ∀ word ∈ topWords outside text, Solid word ∧ word ∉ connectives

instance (text : List Char) : Decidable (Conjunct text) :=
  inferInstanceAs (Decidable (∀ word ∈ topWords outside text, Solid word ∧ word ∉ connectives))

/-- The words of a conjunct are the ones at its top. -/
theorem Conjunct.words {text : List Char} (h : Conjunct text) :
    Words text (topWords outside text) :=
  ⟨topWords_ne_nil _ _, fun word hmem => (h word hmem).1, (intercalate_topWords _ _).symm⟩

/-- A text none of whose words is a connective is a conjunct. -/
theorem Words.conjunct {text : List Char} {words : List (List Char)} (h : Words text words)
    (hconn : ∀ word ∈ words, word ∉ connectives) : Conjunct text := by
  intro word hmem
  rw [h.topWords] at hmem
  exact ⟨h.solid word hmem, hconn word hmem⟩

/-- A condition in parentheses that belong together. -/
def Parenthesised (text : List Char) : Prop :=
  ∃ inner, Balanced inner ∧ text = '(' :: (inner ++ [')'])

/-- What stands in parentheses is one word, whatever blanks are in it. -/
theorem Parenthesised.solid {text : List Char} (h : Parenthesised text) : Solid text := by
  obtain ⟨inner, hinner, rfl⟩ := h
  exact hinner.parenthesised

/-- And so it is a conjunct, whatever connectives are in it. -/
theorem Parenthesised.conjunct {text : List Char} (h : Parenthesised text) : Conjunct text := by
  refine h.solid.words.conjunct fun word hmem hconn => ?_
  obtain ⟨inner, -, rfl⟩ := h
  rw [List.mem_singleton.1 hmem] at hconn
  simp [connectives] at hconn

/-- A condition as a disjunction of conjunctions: `OR` binds less than `AND`. -/
def disjuncts (text : List Char) : List (List (List Char)) :=
  ((topWords outside text).splitOn ['O', 'R']).map fun words =>
    (words.splitOn ['A', 'N', 'D']).map [' '].intercalate

/-- The words of conditions with `AND` between them. -/
theorem words_conjunction : ∀ {texts : List (List Char)}, texts ≠ [] →
    (∀ text ∈ texts, Conjunct text) →
    Words ([' ', 'A', 'N', 'D', ' '].intercalate texts)
      ([['A', 'N', 'D']].intercalate (texts.map (topWords outside)))
  | [text], _, h => by
      simpa using (h text (List.mem_singleton_self _)).words
  | text :: text' :: texts, _, h => by
      have ih := words_conjunction (List.cons_ne_nil text' texts)
        fun t hmem => h t (List.mem_cons_of_mem _ hmem)
      have hand : Words ['A', 'N', 'D'] [['A', 'N', 'D']] := Solid.words rfl
      have hall := (h text List.mem_cons_self).words.append (hand.append ih)
      simpa using hall

/-- A character of joined texts is one of the separator or of a text. -/
theorem mem_of_mem_intercalate {α : Type} {sep : List α} {x : α} : ∀ {xs : List (List α)},
    x ∈ sep.intercalate xs → x ∈ sep ∨ ∃ ys ∈ xs, x ∈ ys
  | [], h => (nomatch h)
  | [ys], h => .inr ⟨ys, List.mem_singleton_self _, by simpa using h⟩
  | ys :: zs :: xs, h => by
      rw [List.intercalate_cons_cons, List.append_assoc, List.mem_append, List.mem_append] at h
      obtain h | h | h := h
      · exact .inr ⟨ys, List.mem_cons_self, h⟩
      · exact .inl h
      · obtain h | ⟨ws, hws, h⟩ := mem_of_mem_intercalate h
        · exact .inl h
        · exact .inr ⟨ws, List.mem_cons_of_mem _ hws, h⟩

/-- **Conditions with `AND` between them are one conjunction of these conditions**, if none has a
connective at its top level. -/
theorem disjuncts_conjunction {texts : List (List Char)} (hne : texts ≠ [])
    (h : ∀ text ∈ texts, Conjunct text) :
    disjuncts ([' ', 'A', 'N', 'D', ' '].intercalate texts) = [texts] := by
  have hconn : ∀ words ∈ texts.map (topWords outside), ∀ word ∈ words, word ∉ connectives := by
    intro words hwords word hword
    obtain ⟨text, htext, rfl⟩ := List.mem_map.1 hwords
    exact (h text htext word hword).2
  have hor : ['O', 'R'] ∉ [['A', 'N', 'D']].intercalate (texts.map (topWords outside)) := by
    intro hmem
    obtain hmem | ⟨words, hwords, hmem⟩ := mem_of_mem_intercalate hmem
    · simp at hmem
    · exact hconn words hwords _ hmem (by simp [connectives])
  have hand : ∀ words ∈ texts.map (topWords outside), ['A', 'N', 'D'] ∉ words :=
    fun words hwords hmem => hconn words hwords _ hmem (by simp [connectives])
  unfold disjuncts
  rw [(words_conjunction hne h).topWords, List.splitOn_eq_singleton hor, List.map_singleton,
    List.splitOn_intercalate _ hand (fun hnil => hne (List.map_eq_nil_iff.1 hnil)), List.map_map]
  congr 1
  calc texts.map ([' '].intercalate ∘ topWords outside) = texts.map id :=
        List.map_congr_left fun text _ => intercalate_topWords _ _
    _ = texts := List.map_id _

/-- The rows a condition selects, when `holds` says which rows a conjunct holds of. -/
def Selects {Row : Type} (holds : List Char → Row → Prop) (text : List Char) (row : Row) : Prop :=
  ∃ conjuncts ∈ disjuncts text, ∀ condition ∈ conjuncts, holds condition row

/-! ## Placeholders -/

/-- Where the reading of placeholders is: in a placeholder, with what was read of it. -/
inductive Reading
  | plain
  | quoted
  | place (read : List Char)
  deriving DecidableEq, Repr

/-- The placeholders between braces, outside quotation marks. -/
def places : Reading → List Char → List (List Char) × Reading
  | reading, [] => ([], reading)
  | .plain, ch :: text =>
    places (if ch = '\'' then .quoted else if ch = '\x7b' then .place [] else .plain) text
  | .quoted, ch :: text => places (if ch = '\'' then .plain else .quoted) text
  | .place read, ch :: text =>
    if ch = '\x7d' then
      let (found, reading) := places .plain text
      (read :: found, reading)
    else places (.place (read ++ [ch])) text

/-- Placeholders are read from where the text before ends. -/
theorem places_append : ∀ {reading reading' : Reading} {text rest : List Char}
    {found : List (List Char)}, places reading text = (found, reading') →
    places reading (text ++ rest) =
      (found ++ (places reading' rest).1, (places reading' rest).2)
  | reading, reading', [], rest, found, h => by
      simp only [places, Prod.mk.injEq] at h
      rw [← h.1, ← h.2]
      rfl
  | .plain, reading', ch :: text, rest, found, h => by
      rw [places] at h
      rw [List.cons_append, places, places_append h]
  | .quoted, reading', ch :: text, rest, found, h => by
      rw [places] at h
      rw [List.cons_append, places, places_append h]
  | .place read, reading', ch :: text, rest, found, h => by
      rw [places] at h
      rw [List.cons_append, places]
      split_ifs at h ⊢
      · match htail : places .plain text, h with
        | (found', last), h =>
          rw [places_append htail, ← (Prod.mk.inj h).1, ← (Prod.mk.inj h).2]
          rfl
      · exact places_append h

/-- A text that reads as these placeholders. -/
def Places (text : List Char) (found : List (List Char)) : Prop :=
  places .plain text = (found, .plain)

instance (text : List Char) (found : List (List Char)) : Decidable (Places text found) :=
  inferInstanceAs (Decidable (_ = _))

/-- The placeholders of two texts side by side are those of the first and then those of the second.
-/
theorem Places.append {text text' : List Char} {found found' : List (List Char)}
    (h : Places text found) (h' : Places text' found') : Places (text ++ text') (found ++ found') := by
  unfold Places at h h' ⊢
  rw [places_append h, h']

/-- Inside a placeholder characters are collected up to the brace that closes it. -/
theorem places_place {read inner rest : List Char} (h : ∀ ch ∈ inner, ch ≠ '\x7d') :
    places (.place read) (inner ++ rest) = places (.place (read ++ inner)) rest := by
  induction inner generalizing read with
  | nil => simp
  | cons ch inner ih =>
    rw [List.cons_append, places, if_neg (h ch List.mem_cons_self),
      ih fun c hmem => h c (List.mem_cons_of_mem _ hmem)]
    simp

/-- A placeholder reads as itself. -/
theorem places_braces {inner : List Char} (h : ∀ ch ∈ inner, ch ≠ '\x7d') :
    Places ('\x7b' :: (inner ++ ['\x7d'])) [inner] := by
  have hopen : places .plain ('\x7b' :: (inner ++ ['\x7d'])) =
      places (.place []) (inner ++ ['\x7d']) := rfl
  unfold Places
  rw [hopen, places_place h]
  rfl

end Clause

end Cerbero
