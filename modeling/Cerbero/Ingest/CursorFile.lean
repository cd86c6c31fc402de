import Mathlib.Logic.Relation
import Cerbero.Ingest.CutOff
import Cerbero.Search.Query

/-!
# Ingest/CursorFile — the cursor of the live collector

`run` loads the stored cursor, reads the journal from there, accepts each entry and only then stores
its cursor.  The process may stop at any step and be started again; the journal grows meanwhile.
What the cursor file says is never ahead of what was accepted
(**`stored_of_reachable`**).

It is the process that stops, not the host: `storeCursor` does not sync the directory after its
rename, so a host that goes down may come back with an older cursor file, which is not modelled.

The journal is the one `journalctl` shows: its cursors are printable, without white space, and tell
its entries apart, and `--after-cursor` yields the complete entries that follow.
-/

namespace Cerbero

namespace Journald

open Text

/-! ## The journal -/

/-- The cursor of an entry. -/
def entryCursor (fields : List WireField) : String := cursorOf (fields.map WireField.field)

/-- Printable characters other than white space. -/
def Graphic (cursor : String) : Prop := ∀ b ∈ bytes cursor, 0x21 ≤ b ∧ b ≤ 0x7e

/-- **A journal.** -/
structure Journal where
  entries : List (List WireField)
  valid : ∀ e ∈ entries, ValidEntry e
  graphic : ∀ e ∈ entries, Graphic (entryCursor e)
  distinct : entries.Pairwise fun e e' => entryCursor e = entryCursor e' → entryCursor e = ""

/-- What `journalctl --after-cursor` shows. -/
def Journal.after (journal : Journal) (cursor : List UInt8) : List (List WireField) :=
  (journal.entries.dropWhile fun e => bytes (entryCursor e) ≠ cursor).tail

/-- What `journalctl` shows: with an empty cursor, nothing of what is there already. -/
def Journal.shown (journal : Journal) (cursor : List UInt8) : List UInt8 :=
  if cursor = [] then [] else stream (journal.after cursor)

/-! ## The process -/

/-- The contents of the cursor file. -/
def cursorContents (cursor : String) : List UInt8 := bytes cursor ++ [lineFeed]

/-- `loadCursor`. -/
def loadCursor : Option (List UInt8) → List UInt8
  | none => []
  | some value => Search.trimSpace value

/-- What the process is about to do: load the cursor, read an entry, have it accepted, and store its
cursor through a temporary file. -/
inductive Phase
  | loading
  | reading
  | accepting (entry : Entry)
  | opening (cursor : String)
  | writing (cursor : String)
  | syncing (cursor : String)
  | closing (cursor : String)
  | renaming (cursor : String)

/-- A process, with what `journalctl` has written and it has not read. -/
structure Process where
  unread : List UInt8
  phase : Phase

/-- **The shared state.**  `accepted` holds the entries that were durably accepted; `firstStored` is
the cursor that was stored first. -/
structure State where
  journal : Journal
  accepted : List Entry
  file : Option (List UInt8)
  temp : Option (List UInt8)
  process : Option Process
  firstStored : Option String

/-- What `journalctl --follow` writes for a new entry. -/
def Process.follow (e : List WireField) (process : Process) : Process :=
  match process.phase with
  | .loading => process
  | _ => { process with unread := process.unread ++ encodeEntry e }

/-- **One step** of the journal or of the process.  A process that fails or crashes is gone, whatever
it leaves in its temporary file. -/
inductive Step (collector : ExportCollector) : State → State → Prop
  | append (s : State) (journal : Journal) (e : List WireField)
      (h : journal.entries = s.journal.entries ++ [e]) :
      Step collector s
        { s with journal := journal, process := s.process.map (Process.follow e) }
  | start (s : State) (h : s.process = none) :
      Step collector s { s with process := some ⟨[], .loading⟩ }
  | load (s : State) (unread : List UInt8) (h : s.process = some ⟨unread, .loading⟩) :
      Step collector s
        { s with process := some ⟨s.journal.shown (loadCursor s.file), .reading⟩ }
  | read (s : State) (unread rest : List UInt8) (entry : Entry)
      (h : s.process = some ⟨unread, .reading⟩) (hnext : collector.next unread = .ok (entry, rest)) :
      Step collector s { s with process := some ⟨rest, .accepting entry⟩ }
  /-- `Accept` succeeds; an entry without a cursor ends the process. -/
  | accept (s : State) (unread : List UInt8) (entry : Entry)
      (h : s.process = some ⟨unread, .accepting entry⟩) :
      Step collector s
        { s with
          accepted := s.accepted ++ [entry]
          process := if entry.cursor = "" then none else some ⟨unread, .opening entry.cursor⟩ }
  /-- `Accept` fails, though the entry was accepted. -/
  | acceptLost (s : State) (unread : List UInt8) (entry : Entry)
      (h : s.process = some ⟨unread, .accepting entry⟩) :
      Step collector s { s with accepted := s.accepted ++ [entry], process := none }
  | openTemp (s : State) (unread : List UInt8) (cursor : String)
      (h : s.process = some ⟨unread, .opening cursor⟩) :
      Step collector s { s with temp := some [], process := some ⟨unread, .writing cursor⟩ }
  | writeTemp (s : State) (unread : List UInt8) (cursor : String)
      (h : s.process = some ⟨unread, .writing cursor⟩) :
      Step collector s
        { s with
          temp := some (cursorContents cursor)
          process := some ⟨unread, .syncing cursor⟩ }
  | syncTemp (s : State) (unread : List UInt8) (cursor : String)
      (h : s.process = some ⟨unread, .syncing cursor⟩) :
      Step collector s { s with process := some ⟨unread, .closing cursor⟩ }
  | closeTemp (s : State) (unread : List UInt8) (cursor : String)
      (h : s.process = some ⟨unread, .closing cursor⟩) :
      Step collector s { s with process := some ⟨unread, .renaming cursor⟩ }
  | rename (s : State) (unread : List UInt8) (cursor : String)
      (h : s.process = some ⟨unread, .renaming cursor⟩) :
      Step collector s
        { s with
          file := s.temp
          temp := none
          process := some ⟨unread, .reading⟩
          firstStored := s.firstStored.or (some cursor) }
  | stop (s : State) (temp : Option (List UInt8)) :
      Step collector s { s with temp := temp, process := none }

/-- Before the first process. -/
def State.initial (journal : Journal) : State := ⟨journal, [], none, none, none, none⟩

/-- The states a run reaches. -/
def Reachable (collector : ExportCollector) (journal : Journal) : State → Prop :=
  Relation.ReflTransGen (Step collector) (.initial journal)

/-! ## The cursor is read back -/

theorem spaceSizeReversed_lineFeed {l : List UInt8} (h : ∀ b ∈ l, 0x21 ≤ b ∧ b ≤ 0x7e) :
    Search.spaceSizeReversed (lineFeed :: l) = 1 := by
  have hline : Search.spaceSize [lineFeed] = 1 := by decide
  have hmore : ∀ n, Search.spaceSize ((lineFeed :: l).take (n + 1)).reverse = 0 ∨
      (lineFeed :: l).take (n + 1) = [lineFeed] := by
    intro n
    rw [List.take_succ_cons]
    match hpart : (l.take n).reverse with
    | [] => exact .inr (by rw [List.reverse_eq_nil_iff.1 hpart])
    | b :: rest =>
      have hb : b ∈ (l.take n).reverse := hpart ▸ List.mem_cons_self
      refine .inl ?_
      rw [List.reverse_cons, hpart, List.cons_append]
      exact Search.spaceSize_graphic (h b (List.mem_of_mem_take (List.mem_reverse.1 hb)))
  have hsize : ∀ n, Search.spaceSize ((lineFeed :: l).take (n + 1)).reverse ≤ 1 := by
    intro n
    obtain heq | heq := hmore n
    · rw [heq]
      exact Nat.zero_le 1
    · rw [heq]
      exact hline.le
  have hthree : Search.spaceSize ((lineFeed :: l).take 3).reverse ≠ 3 :=
    ((hsize 2).trans_lt (by decide)).ne
  have htwo : Search.spaceSize ((lineFeed :: l).take 2).reverse ≠ 2 :=
    ((hsize 1).trans_lt (by decide)).ne
  rw [Search.spaceSizeReversed, if_neg hthree, if_neg htwo]
  exact if_pos hline

/-- **A stored cursor is loaded as it was.** -/
theorem trimSpace_cursorContents {cursor : String} (hne : cursor ≠ "") (h : Graphic cursor) :
    Search.trimSpace (cursorContents cursor) = bytes cursor := by
  have hbytes : bytes cursor ≠ [] := fun heq => hne (bytes_injective heq)
  obtain ⟨b, rest, hcons⟩ := List.exists_cons_of_ne_nil hbytes
  have hleft : Search.trimLeft Search.spaceSize 0 (cursorContents cursor) =
      cursorContents cursor := by
    have hb := h b (hcons ▸ List.mem_cons_self)
    rw [cursorContents, hcons, List.cons_append, Search.trimLeft, Search.spaceSize_graphic hb]
  have hreverse : ∀ b ∈ (bytes cursor).reverse, 0x21 ≤ b ∧ b ≤ 0x7e := fun b hb =>
    h b (List.mem_reverse.1 hb)
  have hright := Search.trimLeft_reversed_graphic hreverse
  rw [Search.trimSpace, hleft, cursorContents, List.reverse_append, List.reverse_singleton,
    List.singleton_append, Search.trimLeft, spaceSizeReversed_lineFeed hreverse]
  dsimp only
  rw [hright, List.reverse_reverse]

/-! ## The entries after a cursor -/

/-- **The entries after the cursor of an entry are those that follow it.** -/
theorem Journal.after_eq (journal : Journal) {i : ℕ} {e : List WireField}
    (h : journal.entries[i]? = some e) (hne : entryCursor e ≠ "") :
    journal.after (bytes (entryCursor e)) = journal.entries.drop (i + 1) := by
  obtain ⟨hi, he⟩ := List.getElem?_eq_some_iff.1 h
  have hbefore : ∀ e' ∈ journal.entries.take i,
      decide (bytes (entryCursor e') ≠ bytes (entryCursor e)) := by
    intro e' he'
    obtain ⟨j, hj, rfl⟩ := List.mem_take_iff_getElem.1 he'
    have hlt : j < i := by omega
    refine decide_eq_true fun heq => hne ?_
    rw [← bytes_injective heq]
    refine List.pairwise_iff_getElem.1 journal.distinct j i (by omega) hi hlt ?_
    rw [he]
    exact bytes_injective heq
  have hsplit : journal.entries = journal.entries.take i ++ e :: journal.entries.drop (i + 1) := by
    rw [← he, ← List.drop_eq_getElem_cons hi, List.take_append_drop]
  rw [Journal.after]
  conv_lhs => rw [hsplit]
  rw [List.dropWhile_append_of_pos hbefore, List.dropWhile_cons_of_neg (by simp), List.tail_cons]

/-! ## The invariant -/

section

variable (collector : ExportCollector)

/-- An entry of the journal was durably accepted. -/
def Recorded (s : State) (j : ℕ) : Prop :=
  ∃ e, s.journal.entries[j]? = some e ∧ collector.entryOf e ∈ s.accepted

/-- **The cursor file**: it holds the cursor of the entry at `last`, the first one it held was that
of the entry at `first`, and every entry between the two was accepted. -/
structure Stored (s : State) (first last : ℕ) : Prop where
  le : first ≤ last
  firstStored : ∃ e, s.journal.entries[first]? = some e ∧ s.firstStored = some (entryCursor e)
  file : ∃ e, s.journal.entries[last]? = some e ∧ entryCursor e ≠ "" ∧
    s.file = some (cursorContents (entryCursor e))
  recorded : ∀ j, first ≤ j → j ≤ last → Recorded collector s j

/-- There is no cursor file yet, or one that is not ahead. -/
def FileAt (s : State) : Option (ℕ × ℕ) → Prop
  | none => s.file = none ∧ s.firstStored = none
  | some (first, last) => Stored collector s first last

/-- A process has read and had accepted an entry, the next one after that of the cursor file. -/
def AcceptedAt (s : State) (last : Option ℕ) (cursor : String) (unread : List UInt8) : Prop :=
  ∃ n e, s.journal.entries[n]? = some e ∧ cursor = entryCursor e ∧ cursor ≠ "" ∧
    collector.entryOf e ∈ s.accepted ∧ (∀ i ∈ last, n = i + 1) ∧
    unread = stream (s.journal.entries.drop (n + 1))

/-- **What a process knows**: it reads on right after the entry of the cursor file. -/
def ProcessAt (s : State) (last : Option ℕ) (p : Process) : Prop :=
  match p.phase with
  | .loading => True
  | .reading => ∃ n, n ≤ s.journal.entries.length ∧ (∀ i ∈ last, n = i + 1) ∧
      p.unread = stream (s.journal.entries.drop n)
  | .accepting entry => ∃ n e, s.journal.entries[n]? = some e ∧ entry = collector.entryOf e ∧
      (∀ i ∈ last, n = i + 1) ∧ p.unread = stream (s.journal.entries.drop (n + 1))
  | .opening cursor | .writing cursor => AcceptedAt collector s last cursor p.unread
  | .syncing cursor | .closing cursor | .renaming cursor =>
      AcceptedAt collector s last cursor p.unread ∧ s.temp = some (cursorContents cursor)

/-- **The invariant.** -/
def CursorSafe (s : State) : Prop :=
  ∃ stored, FileAt collector s stored ∧
    ∀ p ∈ s.process, ProcessAt collector s (stored.map Prod.snd) p

end

section

variable {collector : ExportCollector}

/-- What more is accepted, and more of the journal, do not change. -/
theorem FileAt.mono {s s' : State} : ∀ {stored : Option (ℕ × ℕ)}, FileAt collector s stored →
    s'.file = s.file → s'.firstStored = s.firstStored →
    (∀ (j : ℕ) (e : List WireField), s.journal.entries[j]? = some e →
      s'.journal.entries[j]? = some e) →
    s.accepted ⊆ s'.accepted → FileAt collector s' stored
  | none, h, hfile, hfirst, _, _ => ⟨hfile.trans h.1, hfirst.trans h.2⟩
  | some (first, last), h, hfile, hfirst, hjournal, haccepted => by
      obtain ⟨e₀, he₀, hfirst₀⟩ := h.firstStored
      obtain ⟨e, he, hne, hcontents⟩ := h.file
      refine ⟨h.le, ⟨e₀, hjournal _ _ he₀, hfirst.trans hfirst₀⟩,
        ⟨e, hjournal _ _ he, hne, hfile.trans hcontents⟩, fun j hj hj' => ?_⟩
      obtain ⟨e', he', hmem⟩ := h.recorded j hj hj'
      exact ⟨e', hjournal _ _ he', haccepted hmem⟩

/-- What a step does to the process alone does not touch the cursor file. -/
theorem FileAt.frame {s : State} {stored : Option (ℕ × ℕ)} (h : FileAt collector s stored)
    (temp : Option (List UInt8)) (process : Option Process) :
    FileAt collector { s with temp := temp, process := process } stored :=
  h.mono rfl rfl (fun _ _ h => h) (List.Subset.refl _)

/-- What is accepted does not touch it either. -/
theorem FileAt.accept {s : State} {stored : Option (ℕ × ℕ)} (h : FileAt collector s stored)
    (entry : Entry) (process : Option Process) :
    FileAt collector { s with accepted := s.accepted ++ [entry], process := process } stored :=
  h.mono rfl rfl (fun _ _ h => h) (List.subset_append_left _ _)

/-- **The cursor file that a rename leaves** is that of an entry which was accepted, and the next
one; the first cursor that is stored stays the first one. -/
theorem FileAt.rename {s : State} {stored : Option (ℕ × ℕ)} (h : FileAt collector s stored)
    {n : ℕ} {e : List WireField} (he : s.journal.entries[n]? = some e) (hne : entryCursor e ≠ "")
    (hmem : collector.entryOf e ∈ s.accepted) (hlast : ∀ i ∈ stored.map Prod.snd, n = i + 1)
    (process : Option Process) :
    ∃ first, FileAt collector
      { s with
        file := some (cursorContents (entryCursor e))
        temp := none
        process := process
        firstStored := s.firstStored.or (some (entryCursor e)) } (some (first, n)) := by
  have hrecorded : ∀ j, j = n → ∃ e', s.journal.entries[j]? = some e' ∧
      collector.entryOf e' ∈ s.accepted := fun j hj => hj ▸ ⟨e, he, hmem⟩
  match stored, h with
  | none, ⟨_, hfirst⟩ =>
    refine ⟨n, le_rfl, ⟨e, he, ?_⟩, ⟨e, he, hne, rfl⟩, fun j hj hj' =>
      hrecorded j (le_antisymm hj' hj)⟩
    show s.firstStored.or _ = _
    rw [hfirst]
    rfl
  | some (first, last), hstored =>
    obtain rfl : n = last + 1 := hlast last rfl
    obtain ⟨e₀, he₀, hfirst⟩ := hstored.firstStored
    refine ⟨first, Nat.le_succ_of_le hstored.le, ⟨e₀, he₀, ?_⟩, ⟨e, he, hne, rfl⟩,
      fun j hj hj' => ?_⟩
    · show s.firstStored.or _ = _
      rw [hfirst]
      rfl
    · obtain hj' | hj' := Nat.le_succ_iff.1 hj'
      · exact hstored.recorded j hj hj'
      · exact hrecorded j hj'

theorem getElem?_append_of_some {entries : List (List WireField)} {j : ℕ} {e e' : List WireField}
    (h : entries[j]? = some e) : (entries ++ [e'])[j]? = some e := by
  rw [List.getElem?_append_left (List.getElem?_eq_some_iff.1 h).1, h]

theorem stream_drop_append {entries : List (List WireField)} {n : ℕ} (e : List WireField)
    (h : n ≤ entries.length) :
    stream ((entries ++ [e]).drop n) = stream (entries.drop n) ++ encodeEntry e := by
  rw [List.drop_append_of_le_length h, stream, List.flatMap_append, List.flatMap_singleton]
  rfl

/-- A process that follows the journal stays where it is. -/
theorem ProcessAt.append {s s' : State} {e : List WireField} {last : Option ℕ} {p : Process}
    (hjournal : s'.journal.entries = s.journal.entries ++ [e]) (haccepted : s'.accepted = s.accepted)
    (htemp : s'.temp = s.temp) (h : ProcessAt collector s last p) :
    ProcessAt collector s' last (p.follow e) := by
  have hat : ∀ {n : ℕ} {e' : List WireField}, s.journal.entries[n]? = some e' →
      s'.journal.entries[n]? = some e' ∧ stream (s.journal.entries.drop (n + 1)) ++ encodeEntry e =
        stream (s'.journal.entries.drop (n + 1)) := by
    intro n e' hn
    rw [hjournal]
    exact ⟨getElem?_append_of_some hn,
      (stream_drop_append e (List.getElem?_eq_some_iff.1 hn).1).symm⟩
  have haccept : ∀ {cursor : String} {unread : List UInt8},
      AcceptedAt collector s last cursor unread →
      AcceptedAt collector s' last cursor (unread ++ encodeEntry e) := by
    rintro cursor unread ⟨n, e', hn, hcursor, hne, hmem, hlast, rfl⟩
    obtain ⟨hn', hunread⟩ := hat hn
    exact ⟨n, e', hn', hcursor, hne, haccepted ▸ hmem, hlast, hunread⟩
  match p, h with
  | ⟨_, .loading⟩, _ => exact trivial
  | ⟨_, .reading⟩, ⟨n, hn, hlast, hunread⟩ =>
    refine ⟨n, by rw [hjournal, List.length_append]; omega, hlast, ?_⟩
    rw [hjournal, stream_drop_append e hn]
    exact congrArg (· ++ encodeEntry e) hunread
  | ⟨_, .accepting _⟩, ⟨n, e', hn, hentry, hlast, hunread⟩ =>
    obtain ⟨hn', hunread'⟩ := hat hn
    exact ⟨n, e', hn', hentry, hlast, (congrArg (· ++ encodeEntry e) hunread).trans hunread'⟩
  | ⟨_, .opening _⟩, h => exact haccept h
  | ⟨_, .writing _⟩, h => exact haccept h
  | ⟨_, .syncing _⟩, ⟨h, ht⟩ => exact ⟨haccept h, htemp.trans ht⟩
  | ⟨_, .closing _⟩, ⟨h, ht⟩ => exact ⟨haccept h, htemp.trans ht⟩
  | ⟨_, .renaming _⟩, ⟨h, ht⟩ => exact ⟨haccept h, htemp.trans ht⟩

/-- A process that starts reads on after the entry of the cursor file. -/
theorem ProcessAt.load {s : State} {stored : Option (ℕ × ℕ)} (h : FileAt collector s stored) :
    ProcessAt collector s (stored.map Prod.snd)
      ⟨s.journal.shown (loadCursor s.file), .reading⟩ := by
  match stored, h with
  | none, ⟨hfile, _⟩ =>
    refine ⟨s.journal.entries.length, le_rfl, (fun _ h => nomatch h), ?_⟩
    rw [hfile, List.drop_length]
    rfl
  | some (first, last), h =>
    obtain ⟨e, he, hne, hfile⟩ := h.file
    have hlt := (List.getElem?_eq_some_iff.1 he).1
    refine ⟨last + 1, hlt, fun i hi => by obtain rfl := Option.some.inj hi; rfl, ?_⟩
    have hbytes : bytes (entryCursor e) ≠ [] := fun heq => hne (bytes_injective heq)
    rw [hfile, loadCursor, trimSpace_cursorContents hne
      (s.journal.graphic e (List.mem_of_getElem? he)), Journal.shown, if_neg hbytes,
      s.journal.after_eq he hne]

variable (hsource : collector.source.transport = transport)

include hsource

/-- An entry that is read is the next one of the journal. -/
theorem exists_of_next {s : State} {n : ℕ} {rest : List UInt8} {entry : Entry}
    (hnext : collector.next (stream (s.journal.entries.drop n)) = .ok (entry, rest)) :
    ∃ e, s.journal.entries[n]? = some e ∧ entry = collector.entryOf e ∧
      rest = stream (s.journal.entries.drop (n + 1)) := by
  by_cases hn : n < s.journal.entries.length
  · have hvalid := s.journal.valid _ (List.getElem_mem hn)
    rw [List.drop_eq_getElem_cons hn] at hnext
    have hstream : stream (s.journal.entries[n] :: s.journal.entries.drop (n + 1)) =
        encodeEntry s.journal.entries[n] ++ stream (s.journal.entries.drop (n + 1)) :=
      List.flatMap_cons
    rw [hstream] at hnext
    by_cases htaken : EntryTaken collector.maxEntryBytes s.journal.entries[n]
    · rw [next_entry hsource hvalid htaken] at hnext
      obtain ⟨rfl, rfl⟩ := Prod.mk.inj (Except.ok.inj hnext)
      exact ⟨_, List.getElem?_eq_getElem hn, rfl, rfl⟩
    · obtain ⟨e, herror, -⟩ := refuses_next_entry hsource hvalid htaken
        (stream (s.journal.entries.drop (n + 1)))
      cases herror.symm.trans hnext
  · rw [List.drop_of_length_le (Nat.le_of_not_lt hn)] at hnext
    have hempty : collector.next (stream []) = .error ioEof := by
      have hread : readEntry collector.maxEntryBytes [] = .error ioEof := readEntryLoop_error rfl
      show collector.next [] = _
      rw [ExportCollector.next, hread]
      rfl
    cases hempty.symm.trans hnext

/-- **Every step keeps the invariant.** -/
theorem cursorSafe_step : ∀ {s s' : State}, Step collector s s' → CursorSafe collector s →
    CursorSafe collector s'
  | _, _, .append s journal e hjournal, ⟨stored, hfile, hprocess⟩ => by
      refine ⟨stored, hfile.mono rfl rfl (fun j e' he' => ?_) (List.Subset.refl _), fun p hp => ?_⟩
      · rw [hjournal]
        exact getElem?_append_of_some he'
      · obtain ⟨p', hp', rfl⟩ := Option.map_eq_some_iff.1 hp
        exact (hprocess p' hp').append hjournal rfl rfl
  | _, _, .start s h, ⟨stored, hfile, _⟩ =>
      ⟨stored, hfile.frame _ _, fun _ hp => Option.some.inj hp ▸ trivial⟩
  | _, _, .load s unread h, ⟨stored, hfile, _⟩ => by
      have hfile' := hfile.frame s.temp (some ⟨s.journal.shown (loadCursor s.file), .reading⟩)
      exact ⟨stored, hfile', fun p hp => Option.some.inj hp ▸ ProcessAt.load hfile'⟩
  | _, _, .read s unread rest entry h hnext, ⟨stored, hfile, hprocess⟩ => by
      obtain ⟨n, -, hlast, hunread⟩ := hprocess _ h
      obtain rfl : unread = _ := hunread
      obtain ⟨e, he, rfl, rfl⟩ := exists_of_next hsource hnext
      exact ⟨stored, hfile.frame _ _,
        fun p hp => Option.some.inj hp ▸ ⟨n, e, he, rfl, hlast, rfl⟩⟩
  | _, _, .accept s unread entry h, ⟨stored, hfile, hprocess⟩ => by
      obtain ⟨n, e, he, rfl, hlast, hunread⟩ := hprocess _ h
      refine ⟨stored, hfile.accept _ _, fun p hp => ?_⟩
      dsimp only at hp
      split at hp
      · exact nomatch hp
      · obtain rfl := Option.some.inj hp
        exact ⟨n, e, he, rfl, ‹_›, List.mem_append_right _ (List.mem_singleton_self _), hlast,
          hunread⟩
  | _, _, .acceptLost s unread entry h, ⟨stored, hfile, _⟩ =>
      ⟨stored, hfile.accept _ _, fun _ hp => nomatch hp⟩
  | _, _, .openTemp s unread cursor h, ⟨stored, hfile, hprocess⟩ =>
      ⟨stored, hfile.frame _ _, fun _ hp => Option.some.inj hp ▸ hprocess _ h⟩
  | _, _, .writeTemp s unread cursor h, ⟨stored, hfile, hprocess⟩ =>
      ⟨stored, hfile.frame _ _, fun _ hp => Option.some.inj hp ▸ ⟨hprocess _ h, rfl⟩⟩
  | _, _, .syncTemp s unread cursor h, ⟨stored, hfile, hprocess⟩ =>
      ⟨stored, hfile.frame _ _, fun _ hp => Option.some.inj hp ▸ hprocess _ h⟩
  | _, _, .closeTemp s unread cursor h, ⟨stored, hfile, hprocess⟩ =>
      ⟨stored, hfile.frame _ _, fun _ hp => Option.some.inj hp ▸ hprocess _ h⟩
  | _, _, .rename s unread cursor h, ⟨stored, hfile, hprocess⟩ => by
      obtain ⟨⟨n, e, he, rfl, hne, hmem, hlast, hunread⟩, htemp⟩ := hprocess _ h
      obtain ⟨first, hrenamed⟩ := hfile.rename he hne hmem hlast (some ⟨unread, .reading⟩)
      rw [← htemp] at hrenamed
      refine ⟨some (first, n), hrenamed, fun p hp => ?_⟩
      obtain rfl := Option.some.inj hp
      exact ⟨n + 1, (List.getElem?_eq_some_iff.1 he).1,
        fun i hi => by rw [← Option.some.inj hi], hunread⟩
  | _, _, .stop s temp, ⟨stored, hfile, _⟩ =>
      ⟨stored, hfile.frame _ _, fun _ hp => nomatch hp⟩

theorem cursorSafe_of_reachable {journal : Journal} {s : State}
    (hs : Reachable collector journal s) : CursorSafe collector s := by
  induction hs with
  | refl => exact ⟨none, ⟨rfl, rfl⟩, fun _ hp => nomatch hp⟩
  | tail _ hstep ih => exact cursorSafe_step hsource hstep ih

end

/-! ## Runs -/

/-- **The cursor never runs ahead of what was accepted.**  In every state of every run, the cursor
file holds the cursor of an entry that was durably accepted, as were all entries of the journal
between the one whose cursor was stored first and this one; and it is loaded as it was stored. -/
theorem stored_of_reachable {collector : ExportCollector} {source : AdmissionMetadata}
    {maxEntryBytes : ℕ} (hbuilt : newExportCollector source maxEntryBytes = .ok collector)
    {journal : Journal} {s : State} (hs : Reachable collector journal s) {content : List UInt8}
    (hfile : s.file = some content) :
    ∃ first last e, Stored collector s first last ∧ s.journal.entries[last]? = some e ∧
      content = cursorContents (entryCursor e) ∧
      loadCursor (some content) = bytes (entryCursor e) := by
  obtain ⟨stored, hstored, -⟩ :=
    cursorSafe_of_reachable (transport_of_newExportCollector hbuilt) hs
  match stored, hstored with
  | none, ⟨hnone, _⟩ => exact nomatch hnone.symm.trans hfile
  | some (first, last), hstored =>
    obtain ⟨e, he, hne, hcontents⟩ := hstored.file
    obtain rfl : content = _ := Option.some.inj (hfile.symm.trans hcontents)
    exact ⟨first, last, e, hstored, he, rfl,
      trimSpace_cursorContents hne (s.journal.graphic e (List.mem_of_getElem? he))⟩

/-! ## A sample -/

/-- An entry with a cursor is accepted, and its cursor stored. -/
theorem reaches_stored {collector : ExportCollector} {s : State} {unread : List UInt8} {entry : Entry}
    (h : s.process = some ⟨unread, .accepting entry⟩) (hne : entry.cursor ≠ "") :
    Relation.ReflTransGen (Step collector) s
      { s with
        accepted := s.accepted ++ [entry]
        file := some (cursorContents entry.cursor)
        temp := none
        process := some ⟨unread, .reading⟩
        firstStored := s.firstStored.or (some entry.cursor) } := by
  refine .head (.accept _ _ _ h) ?_
  rw [if_neg hne]
  exact .head (.openTemp _ _ _ rfl) (.head (.writeTemp _ _ _ rfl) (.head (.syncTemp _ _ _ rfl)
    (.head (.closeTemp _ _ _ rfl) (.single (.rename _ _ _ rfl)))))

/-- A journal without entries. -/
def emptyJournal : Journal := ⟨[], by simp, by simp, .nil⟩

theorem graphic_sampleEntry : Graphic (entryCursor sampleEntry) := by
  have hcursor : bytes (entryCursor sampleEntry) = bytes "s=1" := by decide +kernel
  rw [Graphic, hcursor]
  decide +kernel

theorem graphic_sampleBinary : Graphic (entryCursor sampleBinary) := by
  have hcursor : bytes (entryCursor sampleBinary) = bytes "s=2" := by decide +kernel
  rw [Graphic, hcursor]
  decide +kernel

/-- The journal of the first entry. -/
def sampleJournal : Journal where
  entries := [sampleEntry]
  valid := List.forall_mem_singleton.2 validEntry_sampleEntry
  graphic := List.forall_mem_singleton.2 graphic_sampleEntry
  distinct := List.pairwise_singleton _ _

/-- The journal of both entries. -/
def laterJournal : Journal where
  entries := [sampleEntry, sampleBinary]
  valid := List.forall_mem_cons.2
    ⟨validEntry_sampleEntry, List.forall_mem_singleton.2 validEntry_sampleBinary⟩
  graphic := List.forall_mem_cons.2
    ⟨graphic_sampleEntry, List.forall_mem_singleton.2 graphic_sampleBinary⟩
  distinct := by decide +kernel

/-- After the cursor of the second entry was stored, which was accepted twice. -/
def sampleStored : State where
  journal := laterJournal
  accepted := [sampleCollector.entryOf sampleEntry, sampleCollector.entryOf sampleBinary,
    sampleCollector.entryOf sampleBinary]
  file := some (cursorContents (entryCursor sampleBinary))
  temp := none
  process := some ⟨[], .reading⟩
  firstStored := some (entryCursor sampleEntry)

/-- The process stops after the second entry was accepted, and reads it again when it is back. -/
theorem reachable_sampleStored : Reachable sampleCollector emptyJournal sampleStored := by
  have hnext : sampleCollector.next (encodeEntry sampleEntry) =
      .ok (sampleCollector.entryOf sampleEntry, []) := by
    have htaken : EntryTaken sampleCollector.maxEntryBytes sampleEntry := by decide +kernel
    have := next_entry rfl validEntry_sampleEntry htaken []
    rwa [List.append_nil] at this
  have hlater : sampleCollector.next (encodeEntry sampleBinary) =
      .ok (sampleCollector.entryOf sampleBinary, []) := by
    have htaken : EntryTaken sampleCollector.maxEntryBytes sampleBinary := by decide +kernel
    have := next_entry rfl validEntry_sampleBinary htaken []
    rwa [List.append_nil] at this
  have hfirst : entryCursor sampleEntry ≠ "" := by decide +kernel
  have hsecond : entryCursor sampleBinary ≠ "" := by decide +kernel
  -- what the second process is shown
  have hshown : laterJournal.shown (loadCursor (some (cursorContents (entryCursor sampleEntry)))) =
      encodeEntry sampleBinary := by
    rw [loadCursor, trimSpace_cursorContents hfirst graphic_sampleEntry, Journal.shown,
      if_neg (by decide +kernel), Journal.after_eq (i := 0) laterJournal rfl hfirst]
    exact List.append_nil _
  refine .head (.start _ rfl) (.head (.load _ _ rfl) (.head (.append _ sampleJournal sampleEntry rfl)
    (.head (.read _ _ _ _ rfl hnext) (.trans (reaches_stored rfl hfirst) ?_))))
  refine .head (.append _ laterJournal sampleBinary rfl) (.head (.read _ _ _ _ rfl hlater)
    (.head (.acceptLost _ _ _ rfl) (.head (.start _ rfl) (.head (.load _ _ rfl)
      (.head (.read _ _ _ _ rfl ?_) (reaches_stored rfl hsecond))))))
  exact (congrArg _ hshown).trans hlater

theorem stored_of_reachable_sample :
    ∃ first last e, Stored sampleCollector sampleStored first last ∧
      sampleStored.journal.entries[last]? = some e ∧
      cursorContents (entryCursor sampleBinary) = cursorContents (entryCursor e) ∧
      loadCursor (some (cursorContents (entryCursor sampleBinary))) = bytes (entryCursor e) :=
  stored_of_reachable (show newExportCollector sampleSource 4096 = .ok sampleCollector from rfl)
    reachable_sampleStored rfl

end Journald

end Cerbero
