import Cerbero.Lib.Text

/-!
# Lib/MediaType — the media type of a header

`mime.ParseMediaType`, with the checks of its parameters, and `strings.EqualFold`.  What the
parameters are stitched together to is left out: it does not fail, and only the type is returned.
-/

namespace Cerbero

namespace MediaType

open Text (isWhitespace trim)

/-! ## Case -/

/-- `unicode.ToLower`, where the result is ASCII: two characters outside of ASCII have a small letter
in it, the capital I with a dot and the Kelvin sign. -/
def toLower (ch : Char) : Char :=
  if ch = Char.ofNat 0x130 then 'i' else if ch = Char.ofNat 0x212a then 'k' else ch.toLower

/-- The letter that stands for all the cases of an ASCII letter: the long s and the Kelvin sign are
cases of one. -/
def fold (ch : Char) : Char :=
  if ch = Char.ofNat 0x17f then 's' else if ch = Char.ofNat 0x212a then 'k' else ch.toLower

/-- `strings.EqualFold`, for a second text of ASCII characters. -/
def equalFold (s t : String) : Bool := s.toList.map fold == t.toList.map fold

/-! ## Tokens -/

/-- `isTSpecial`. -/
def isTSpecial (ch : Char) : Bool := "()<>@,;:\\\"/[]?=".toList.contains ch

/-- `isTokenChar`. -/
def isTokenChar (ch : Char) : Bool := 0x20 < ch.toNat && ch.toNat < 0x7f && !isTSpecial ch

/-- `consumeToken`. -/
def consumeToken (v : List Char) : List Char × List Char :=
  (v.takeWhile isTokenChar, v.dropWhile isTokenChar)

/-- What stands between quotation marks, and what follows; a backslash only escapes a special. -/
def consumeQuoted : List Char → Option (List Char × List Char)
  | [] => none
  | '"' :: rest => some ([], rest)
  | '\\' :: ch :: rest =>
    if isTSpecial ch then (consumeQuoted rest).map fun found => (ch :: found.1, found.2)
    else (consumeQuoted (ch :: rest)).map fun found => ('\\' :: found.1, found.2)
  | ch :: rest =>
    if ch = '\r' ∨ ch = '\n' then none
    else (consumeQuoted rest).map fun found => (ch :: found.1, found.2)

/-- `consumeValue`. -/
def consumeValue : List Char → List Char × List Char
  | '"' :: rest => (consumeQuoted rest).getD ([], '"' :: rest)
  | v => consumeToken v

/-- `strings.TrimLeftFunc` of white space. -/
def trimLeft (v : List Char) : List Char := v.dropWhile isWhitespace

/-- `consumeMediaParam`: a parameter, its value, and what follows. -/
def consumeMediaParam (v : List Char) : Option (List Char × List Char × List Char) := do
  let ';' :: rest := trimLeft v | none
  let (param, rest) := consumeToken (trimLeft rest)
  if param = [] then none
  else
    let '=' :: rest := trimLeft rest | none
    let rest := trimLeft rest
    let (value, after) := consumeValue rest
    if value = [] ∧ after = rest then none
    else some (param.map toLower, value, after)

theorem length_trimLeft_le (v : List Char) : (trimLeft v).length ≤ v.length :=
  (List.dropWhile_sublist _).length_le

theorem length_consumeToken_le (v : List Char) : (consumeToken v).2.length ≤ v.length :=
  (List.dropWhile_sublist _).length_le

theorem length_consumeQuoted_le : ∀ {v : List Char} {found : List Char × List Char},
    consumeQuoted v = some found → found.2.length ≤ v.length := by
  intro v
  fun_induction consumeQuoted v with
  | case1 => intro found h; cases h
  | case2 rest =>
    intro found h
    obtain rfl := Option.some.inj h
    exact Nat.le_succ _
  | case3 ch rest _ ih =>
    intro found h
    obtain ⟨inner, hinner, rfl⟩ := Option.map_eq_some_iff.1 h
    exact (ih hinner).trans (by simp only [List.length_cons]; omega)
  | case4 ch rest _ ih =>
    intro found h
    obtain ⟨inner, hinner, rfl⟩ := Option.map_eq_some_iff.1 h
    exact (ih hinner).trans (Nat.le_succ _)
  | case5 => intro found h; cases h
  | case6 ch rest _ _ _ ih =>
    intro found h
    obtain ⟨inner, hinner, rfl⟩ := Option.map_eq_some_iff.1 h
    exact (ih hinner).trans (Nat.le_succ _)

theorem length_consumeValue_le (v : List Char) : (consumeValue v).2.length ≤ v.length := by
  unfold consumeValue
  split
  · rename_i rest
    cases hquoted : consumeQuoted rest with
    | none => exact le_rfl
    | some found => exact (length_consumeQuoted_le hquoted).trans (Nat.le_succ _)
  · exact length_consumeToken_le _

/-- A parameter takes characters. -/
theorem length_consumeMediaParam_lt {v param value after : List Char}
    (h : consumeMediaParam v = some (param, value, after)) : after.length < v.length := by
  simp only [consumeMediaParam] at h
  split at h
  · rename_i rest hsemicolon
    split at h
    · cases h
    · split at h
      · rename_i more hequals
        split at h
        · cases h
        · simp only [Option.some.injEq, Prod.mk.injEq] at h
          obtain ⟨-, -, rfl⟩ := h
          have h₁ := length_trimLeft_le v
          have h₂ := length_trimLeft_le rest
          have h₃ := length_consumeToken_le (trimLeft rest)
          have h₄ := length_trimLeft_le (consumeToken (trimLeft rest)).2
          have h₅ := length_trimLeft_le more
          have h₆ := length_consumeValue_le (trimLeft more)
          rw [hsemicolon, List.length_cons] at h₁
          rw [hequals, List.length_cons] at h₄
          omega
      · cases h
  · cases h

/-! ## Media types -/

/-- `checkMediaTypeDisposition`: a type and a subtype that are tokens, with a slash between them, or
one token alone. -/
def checkMediaTypeDisposition (s : List Char) : Except String Unit :=
  let (typ, rest) := consumeToken s
  if typ = [] then .error "mime: no media type"
  else match rest with
    | [] => .ok ()
    | '/' :: rest =>
      let (subtype, rest) := consumeToken rest
      if subtype = [] then .error "mime: expected token after slash"
      else if rest ≠ [] then .error "mime: unexpected content after media subtype"
      else .ok ()
    | _ => .error "mime: expected slash after first token"

/-- The parameters that are left are checked against those before them: a name comes once, or with
one value. -/
def checkParameters (seen : List (List Char × List Char)) (v : List Char) : Except String Unit :=
  let v := trimLeft v
  if v = [] then .ok ()
  else match _h : consumeMediaParam v with
    | none =>
      if trim v = [';'] then .ok () else .error "mime: invalid media parameter"
    | some (key, value, rest) =>
      if seen.any fun item => item.1 = key ∧ item.2 ≠ value then
        .error "mime: duplicate parameter name"
      else checkParameters ((key, value) :: seen) rest
termination_by v.length
decreasing_by exact (length_consumeMediaParam_lt _h).trans_le (length_trimLeft_le _)

/-- **`mime.ParseMediaType`**, of which the media type is returned. -/
def parseMediaType (v : String) : Except String String := do
  let base := v.toList.takeWhile (· ≠ ';')
  let mediaType := trim (base.map toLower)
  checkMediaTypeDisposition mediaType
  checkParameters [] (v.toList.drop base.length)
  return String.ofList mediaType

example : parseMediaType "Application/JSON ; charset=\"utf-8\"" = .ok "application/json" := by
  decide +kernel

end MediaType

end Cerbero
