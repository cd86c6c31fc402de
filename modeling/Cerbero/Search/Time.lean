import Mathlib.Data.List.DropRight
import Cerbero.Lib.Calendar
import Cerbero.Lib.Separated
import Cerbero.Search.Query

/-!
# Search/Time — instants and their texts

`Time.Format` and `time.Parse` with the layout `RFC3339Nano`.  The text of an instant determines it
(**`formatRfc3339Nano_injective`**).
-/

namespace Cerbero

namespace Search

open Text Calendar

/-- What the clock reads, in UTC. -/
@[ext] structure Instant where
  seconds : ℤ
  nanos : ℕ
  nanos_lt : nanos < 1000000000
  deriving DecidableEq

/-- `Time.Add` of a number of seconds. -/
def Instant.addSeconds (now : Instant) (seconds : ℤ) : Instant :=
  { now with seconds := now.seconds + seconds }

/-! ## Format -/

/-- A year, with its sign. -/
def formatYear (year : ℤ) : List Char :=
  if year < 0 then '-' :: zeroPadded 4 year.natAbs else zeroPadded 4 year.natAbs

/-- A fraction of a second, without the zeros at its end. -/
def formatNanos (nanos : ℕ) : List Char :=
  if nanos = 0 then [] else '.' :: (zeroPadded 9 nanos).rdropWhile (· = '0')

/-- A date. -/
def formatDate (date : ℤ × ℤ × ℤ) : List Char :=
  formatYear date.1 ++ '-' :: (zeroPadded 2 date.2.1.natAbs ++ '-' :: zeroPadded 2 date.2.2.natAbs)

/-- A time of day. -/
def formatClock (seconds : ℕ) : List Char :=
  zeroPadded 2 (seconds / 3600) ++ ':' :: (zeroPadded 2 (seconds / 60 % 60) ++
    ':' :: zeroPadded 2 (seconds % 60))

/-- `Time.Format(time.RFC3339Nano)` in UTC. -/
def formatRfc3339Nano (now : Instant) : GoString :=
  bytes (String.ofList (formatDate (civilDate (now.seconds / 86400)) ++
    'T' :: (formatClock (now.seconds % 86400).toNat ++ (formatNanos now.nanos ++ ['Z']))))

/-! ## Parse -/

/-- `getnum`: two digits, or one where that is allowed. -/
def getnum (fixed : Bool) : GoString → Option (ℕ × GoString)
  | first :: second :: rest =>
    if isAsciiDigit first = false then none
    else if isAsciiDigit second then
      some ((first.toNat - 0x30) * 10 + (second.toNat - 0x30), rest)
    else if fixed then none
    else some (first.toNat - 0x30, second :: rest)
  | [first] => if isAsciiDigit first ∧ fixed = false then some (first.toNat - 0x30, []) else none
  | [] => none

/-- A byte of the layout. -/
def skipByte (expected : UInt8) : GoString → Option GoString
  | b :: rest => if b = expected then some rest else none
  | [] => none

/-- Four digits. -/
def parseYear (value : GoString) : Option (ℕ × GoString) :=
  if 4 ≤ value.length ∧ (value.take 4).all isAsciiDigit then
    some ((value.take 4).foldl (fun n b => n * 10 + (b.toNat - 0x30)) 0, value.drop 4)
  else none

/-- A fraction of a second after a point or a comma, of which nine digits count; or nothing. -/
def parseNanos : GoString → ℕ × GoString
  | mark :: digit :: rest =>
    if (mark = 0x2e ∨ mark = 0x2c) ∧ isAsciiDigit digit then
      let digits := ((digit :: rest).takeWhile isAsciiDigit).take 9
      (digits.foldl (fun n b => n * 10 + (b.toNat - 0x30)) 0 * 10 ^ (9 - digits.length),
        (digit :: rest).dropWhile isAsciiDigit)
    else (0, mark :: digit :: rest)
  | value => (0, value)

/-- `Z`, or an offset in seconds. -/
def parseZone : GoString → Option (ℤ × GoString)
  | 0x5a :: rest => some (0, rest)
  | sign :: rest => do
    let (hours, rest) ← getnum true rest
    let rest ← skipByte 0x3a rest
    let (minutes, rest) ← getnum true rest
    if 24 < hours ∨ 60 < minutes then none
    else if sign = 0x2b then some ((hours * 60 + minutes) * 60, rest)
    else if sign = 0x2d then some (-((hours * 60 + minutes) * 60), rest)
    else none
  | [] => none

/-- **`time.Parse(time.RFC3339Nano, _)`**: the seconds since the epoch and the nanoseconds. -/
def parseRfc3339Nano (value : GoString) : Option (ℤ × ℤ) := do
  let (year, value) ← parseYear value
  let value ← skipByte 0x2d value
  let (month, value) ← getnum true value
  let value ← skipByte 0x2d value
  let (day, value) ← getnum true value
  let value ← skipByte 0x54 value
  let (hour, value) ← getnum false value
  let value ← skipByte 0x3a value
  let (minute, value) ← getnum true value
  let value ← skipByte 0x3a value
  let (second, value) ← getnum true value
  let (nanos, value) := parseNanos value
  let (offset, value) ← parseZone value
  if 23 < hour ∨ 59 < minute ∨ 59 < second ∨ value ≠ [] ∨ isCivilDate year month day = false then
    none
  else some (dayNumber year month day * 86400 + hour * 3600 + minute * 60 + second - offset, nanos)

/-! ## The text of an instant -/

theorem not_mem_zeroPadded {ch : Char} (h : ch.isDigit = false) (width n : ℕ) :
    ch ∉ zeroPadded width n := by
  intro hmem
  rw [isDigit_of_mem_zeroPadded hmem] at h
  exact nomatch h

theorem formatYear_injective : Function.Injective formatYear := by
  intro year year' h
  have hminus : ∀ n m : ℕ, '-' :: zeroPadded 4 n ≠ zeroPadded 4 m := by
    intro n m heq
    exact not_mem_zeroPadded (by decide) 4 m (heq ▸ List.mem_cons_self)
  unfold formatYear at h
  split_ifs at h
  · have := zeroPadded_injective 4 (List.cons.inj h).2
    omega
  · exact absurd h (hminus _ _)
  · exact absurd h.symm (hminus _ _)
  · have := zeroPadded_injective 4 h
    omega

/-- A list is what is left of it without the last `z`s, and these. -/
theorem rdropWhile_append_replicate (z : Char) (l : List Char) :
    l.rdropWhile (· = z) ++
      List.replicate (l.length - (l.rdropWhile (· = z)).length) z = l := by
  induction l using List.reverseRecOn with
  | nil => rfl
  | append_singleton l x ih =>
    rw [List.rdropWhile_concat]
    split_ifs with hx
    · have hle : (l.rdropWhile (· = z)).length ≤ l.length :=
        (List.rdropWhile_prefix _ _).length_le
      have hx' : x = z := by simpa using hx
      rw [List.length_append, List.length_singleton, Nat.succ_sub hle, List.replicate_succ',
        ← List.append_assoc, ih, hx']
    · simp

theorem length_zeroPadded {width n : ℕ} (hwidth : 0 < width) (h : n < 10 ^ width) :
    (zeroPadded width n).length = width := by
  have hdigits := (Nat.length_toDigits_le_iff (b := 10) (by decide) hwidth).2 h
  rw [zeroPadded, List.length_append, List.length_replicate]
  omega

theorem formatNanos_injective {nanos nanos' : ℕ} (h : nanos < 1000000000)
    (h' : nanos' < 1000000000) (heq : formatNanos nanos = formatNanos nanos') :
    nanos = nanos' := by
  unfold formatNanos at heq
  split_ifs at heq with hzero hzero' hzero'
  · rw [hzero, hzero']
  · have hdigits := (List.cons.inj heq).2
    have hfirst := rdropWhile_append_replicate '0' (zeroPadded 9 nanos)
    have hsecond := rdropWhile_append_replicate '0' (zeroPadded 9 nanos')
    rw [length_zeroPadded (by decide) (by omega)] at hfirst hsecond
    rw [hdigits] at hfirst
    exact zeroPadded_injective 9 (hfirst.symm.trans hsecond)

theorem formatDate_injective {days days' : ℤ}
    (h : formatDate (civilDate days) = formatDate (civilDate days')) : days = days' := by
  have hpos := civilDate_pos days
  have hpos' := civilDate_pos days'
  have hdash : ∀ n, '-' ∉ (zeroPadded 2 n).reverse := fun n hmem =>
    not_mem_zeroPadded (by decide) 2 n (List.mem_reverse.1 hmem)
  -- read from its end, a date is a day, a month and a year
  have hreverse := congrArg List.reverse h
  simp only [formatDate, List.reverse_append, List.reverse_cons, List.append_assoc,
    List.singleton_append] at hreverse
  obtain ⟨hday, hrest⟩ := Separated.append_cons_inj (hdash _) (hdash _) hreverse
  obtain ⟨hmonth, hyear⟩ := Separated.append_cons_inj (hdash _) (hdash _) hrest
  have hday := zeroPadded_injective 2 (List.reverse_injective hday)
  have hmonth := zeroPadded_injective 2 (List.reverse_injective hmonth)
  have hyear := formatYear_injective (List.reverse_injective hyear)
  refine civilDate_injective (Prod.ext hyear (Prod.ext ?_ ?_)) <;> omega

theorem formatClock_injective {seconds seconds' : ℕ} {rest rest' : List Char}
    (h : formatClock seconds ++ rest = formatClock seconds' ++ rest')
    (hlt : seconds < 86400) (hlt' : seconds' < 86400) : seconds = seconds' ∧ rest = rest' := by
  have hcolon : ∀ n, ':' ∉ zeroPadded 2 n := fun n => not_mem_zeroPadded (by decide) 2 n
  simp only [formatClock, List.append_assoc, List.cons_append] at h
  obtain ⟨hhours, h⟩ := Separated.append_cons_inj (hcolon _) (hcolon _) h
  obtain ⟨hminutes, h⟩ := Separated.append_cons_inj (hcolon _) (hcolon _) h
  obtain ⟨hseconds, hrest⟩ := List.append_inj h
    (by rw [length_zeroPadded (by decide) (by omega), length_zeroPadded (by decide) (by omega)])
  have hhours := zeroPadded_injective 2 hhours
  have hminutes := zeroPadded_injective 2 hminutes
  have hseconds := zeroPadded_injective 2 hseconds
  exact ⟨by omega, hrest⟩

/-- **The text of an instant determines it.** -/
theorem formatRfc3339Nano_injective : Function.Injective formatRfc3339Nano := by
  intro now now' h
  have htext := String.ofList_injective (bytes_injective h)
  have hmark : ∀ date, 'T' ∉ formatDate date := by
    intro date hmem
    have hdigits : ∀ width n, 'T' ∉ zeroPadded width n := not_mem_zeroPadded (by decide)
    simp only [formatDate, formatYear, List.mem_append, List.mem_cons] at hmem
    split_ifs at hmem <;> simp_all
  obtain ⟨hdate, hclock⟩ := Separated.append_cons_inj (hmark _) (hmark _) htext
  have hdays := formatDate_injective hdate
  obtain ⟨hseconds, hnanos⟩ := formatClock_injective hclock (by omega) (by omega)
  have hnanos := formatNanos_injective now.nanos_lt now'.nanos_lt (List.append_cancel_right hnanos)
  exact Instant.ext (by omega) hnanos

end Search

end Cerbero
