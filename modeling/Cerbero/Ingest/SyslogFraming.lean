import Cerbero.Ingest.SyslogTcp
import Cerbero.Lib.Separated

/-!
# Ingest/SyslogFraming — what a connection of frames comes to

A frame is read back from its length in decimal, a space and its bytes, whatever is in it and
whatever follows it (`readOctetCountingFrame_encode`).  A connection that ends within a frame should
be reported, but at two places the error wraps `io.EOF` and is taken for the end:
**`reported_iff`**.
-/

namespace Cerbero

namespace SyslogIngest

open Text
open Journald (ReadError Cause failure ioEof readFull)

/-! ## The format -/

/-- A frame on the wire: the digits of its length, and its bytes. -/
structure WireFrame where
  digits : List UInt8
  payload : List UInt8
  deriving DecidableEq, Repr

namespace WireFrame

/-- The length and the space after it. -/
def header (digits : List UInt8) : List UInt8 := digits ++ [space]

def encode (f : WireFrame) : List UInt8 := header f.digits ++ f.payload

/-- The digits are those of the length. -/
structure Valid (f : WireFrame) : Prop where
  digits_ne : f.digits ≠ []
  digit : f.digits.all isAsciiDigit
  length : decimalValue f.digits = f.payload.length

/-- Digits a frame may start with: no more than there are in 64 bits, and a length within the
limits. -/
structure Within (limit : ℕ) (digits : List UInt8) : Prop where
  digits_ne : digits ≠ []
  digit : digits.all isAsciiDigit
  length_le : digits.length ≤ 20
  pos : 0 < decimalValue digits
  le : decimalValue digits ≤ limit
  lt : decimalValue digits < 2 ^ 63

end WireFrame

/-- The bytes of some frames. -/
def wire (frames : List WireFrame) : List UInt8 := frames.flatMap WireFrame.encode

theorem wire_cons (f : WireFrame) (frames : List WireFrame) :
    wire (f :: frames) = f.encode ++ wire frames := List.flatMap_cons

/-- **The bytes end on a frame boundary.** -/
def OnFrameBoundary (data : List UInt8) : Prop :=
  ∃ frames, (∀ f ∈ frames, f.Valid) ∧ data = wire frames

/-- **The cuts that are not noticed**: in the length of a frame, and right after its space. -/
inductive Unnoticed (limit : ℕ) : List UInt8 → Prop
  | inLength {digits : List UInt8} (hne : digits ≠ []) (hdigit : digits.all isAsciiDigit)
      (hlength : digits.length ≤ 20) : Unnoticed limit digits
  | afterSpace {digits : List UInt8} (h : WireFrame.Within limit digits) :
      Unnoticed limit (WireFrame.header digits)

/-- The bytes of a frame, of which there are as many as an `int` can count. -/
structure Frame where
  bytes : List UInt8
  ne : bytes ≠ []
  length_lt : bytes.length < 2 ^ 63

/-- A frame with its length in decimal. -/
def Frame.wire (frame : Frame) : WireFrame := ⟨decimalBytes frame.bytes.length, frame.bytes⟩

/-- **A connection on which some frames are sent**, and no read deadline expires. -/
def sent {σ : Type} (frames : List Frame) : Connection σ where
  data := SyslogIngest.wire (frames.map Frame.wire)
  ending := .eof
  setReadDeadline _ := none

/-! ## Reading a frame -/

theorem space_notMem_of_digits {digits : List UInt8} (h : digits.all isAsciiDigit) :
    space ∉ digits := fun hmem => nomatch List.all_eq_true.1 h _ hmem

section

variable {limit : ℕ} {ending : Ending}

/-- Digits are read one by one. -/
theorem prefixLoop_append {more : List UInt8} (hdigit : more.all isAsciiDigit) :
    ∀ digits : List UInt8, (digits ++ more).length ≤ 20 → ∀ rest : List UInt8,
      prefixLoop ending digits (more ++ rest) = prefixLoop ending (digits ++ more) rest := by
  induction more with
  | nil =>
    intro digits _ rest
    rw [List.append_nil, List.nil_append]
  | cons b more ih =>
    intro digits hlength rest
    obtain ⟨hb, hmore⟩ := Bool.and_eq_true_iff.1 (List.all_cons.symm.trans hdigit)
    have hspace : b ≠ space := fun heq => by
      rw [heq] at hb
      exact nomatch hb
    have hroom : digits.length < 20 := by
      rw [List.length_append, List.length_cons] at hlength
      omega
    rw [List.cons_append, prefixLoop, if_neg hspace, if_neg (not_not.2 hb),
      if_neg (Nat.not_le.2 hroom), ih hmore _ (by rwa [List.append_assoc]), List.append_assoc]
    rfl

/-- **A length prefix is read up to its space.** -/
theorem prefixLoop_header {digits : List UInt8} (hdigit : digits.all isAsciiDigit)
    (hlength : digits.length ≤ 20) (rest : List UInt8) :
    prefixLoop ending [] (WireFrame.header digits ++ rest) = .ok (digits, rest) := by
  rw [WireFrame.header, List.append_assoc, prefixLoop_append hdigit [] hlength, List.nil_append,
    List.singleton_append, prefixLoop, if_pos rfl]

theorem parseUint_within {digits : List UInt8} (h : WireFrame.Within limit digits) :
    parseUint digits = .ok (decimalValue digits) :=
  parseUint_eq_ok.2 ⟨h.digits_ne, h.digit, rfl, h.lt.trans (by decide)⟩

/-- After a length within the limits, that many bytes are read. -/
theorem readOctetCountingFrame_header {digits : List UInt8} (h : WireFrame.Within limit digits)
    (rest : List UInt8) :
    readOctetCountingFrame limit ending (WireFrame.header digits ++ rest) =
      (readFull (decimalValue digits) rest).mapError fun cause =>
        ⟨"read RFC6587 frame payload", ending.wrapped cause⟩ := by
  have hok : (Except.ok (decimalValue digits) : Except String ℕ).mapError (fun cause =>
      failure ("parse RFC6587 length prefix: " ++ cause)) = .ok (decimalValue digits) := rfl
  rw [readOctetCountingFrame, prefixLoop_header h.digit h.length_le, ok_bind]
  dsimp only
  rw [if_neg h.digits_ne, parseUint_within h, hok, ok_bind, if_neg h.pos.ne',
    if_neg (Nat.not_lt.2 h.le), if_neg (Nat.not_le.2 h.lt)]

/-- **A frame within the limits is read**, whatever follows it. -/
theorem readOctetCountingFrame_encode {f : WireFrame} (hvalid : f.Valid)
    (h : WireFrame.Within limit f.digits) (rest : List UInt8) :
    readOctetCountingFrame limit ending (f.encode ++ rest) = .ok (f.payload, rest) := by
  rw [WireFrame.encode, List.append_assoc, readOctetCountingFrame_header h, hvalid.length,
    Journald.readFull_append]
  rfl

theorem prefixLoop_eq_ok {digits digits' rest : List UInt8} : ∀ {data : List UInt8},
    prefixLoop ending digits data = .ok (digits', rest) → digits.all isAsciiDigit →
      digits.length ≤ 20 → digits'.all isAsciiDigit ∧ digits'.length ≤ 20 ∧
        digits ++ data = WireFrame.header digits' ++ rest
  | [], h, _, _ => by
      unfold prefixLoop at h
      split at h <;> cases h
  | value :: data, h, hdigit, hlength => by
      rw [prefixLoop] at h
      split_ifs at h with hspace hvalue hroom
      · obtain ⟨rfl, rfl⟩ := Prod.mk.inj (Except.ok.inj h)
        refine ⟨hdigit, hlength, ?_⟩
        rw [hspace, WireFrame.header, List.append_assoc]
        rfl
      · have hmore : (digits ++ [value]).all isAsciiDigit := by
          rw [List.all_append, hdigit]
          simpa using hvalue
        have hlength : (digits ++ [value]).length ≤ 20 := by
          rw [List.length_append]
          exact Nat.lt_of_not_le hroom
        have hparts := prefixLoop_eq_ok h hmore hlength
        rwa [List.append_assoc, List.singleton_append] at hparts

/-- The length prefix is cut. -/
theorem prefixLoop_eq_eof {digits : List UInt8} {e : ReadError} : ∀ {data : List UInt8},
    prefixLoop ending digits data = .error e → e.isEof → digits.length ≤ 20 →
      ending = .eof ∧ data.all isAsciiDigit ∧ (digits ++ data).length ≤ 20
  | [], h, he, hlength => by
      have hempty : ending = .eof := by
        cases ending with
        | eof => rfl
        | failed =>
          obtain rfl := Except.error.inj h
          cases he
      exact ⟨hempty, rfl, by rwa [List.append_nil]⟩
  | value :: data, h, he, hlength => by
      rw [prefixLoop] at h
      split_ifs at h with hspace hvalue hroom
      · obtain rfl := Except.error.inj h
        cases he
      · have hlength : (digits ++ [value]).length ≤ 20 := by
          rw [List.length_append]
          exact Nat.lt_of_not_le hroom
        obtain ⟨hending, hdigit, hdata⟩ := prefixLoop_eq_eof h he hlength
        rw [List.append_assoc] at hdata
        refine ⟨hending, ?_, hdata⟩
        rw [List.all_cons, hdigit, hvalue]
        rfl
      · obtain rfl := Except.error.inj h
        cases he

/-- What is read before the bytes of a frame. -/
theorem within_of_read {digits : List UInt8} {length : ℕ} (hdigit : digits.all isAsciiDigit)
    (hlength : digits.length ≤ 20) (hne : digits ≠ []) (hparse : parseUint digits = .ok length)
    (hpos : length ≠ 0) (hle : ¬ limit < length) (hlt : ¬ 2 ^ 63 ≤ length) :
    WireFrame.Within limit digits ∧ decimalValue digits = length := by
  obtain ⟨-, -, rfl, -⟩ := parseUint_eq_ok.1 hparse
  exact ⟨⟨hne, hdigit, hlength, Nat.pos_of_ne_zero hpos, Nat.le_of_not_lt hle,
    Nat.lt_of_not_le hlt⟩, rfl⟩

/-- **A frame that is read was there.** -/
theorem readOctetCountingFrame_eq_ok {data frame rest : List UInt8}
    (h : readOctetCountingFrame limit ending data = .ok (frame, rest)) :
    ∃ f : WireFrame, f.Valid ∧ WireFrame.Within limit f.digits ∧ f.payload = frame ∧
      data = f.encode ++ rest := by
  simp only [readOctetCountingFrame, bind_eq_ok, guard_eq_ok, Prod.exists, mapError_eq_ok] at h
  obtain ⟨digits, left, hprefix, hne, length, hparse, hpos, hle, hlt, hpayload⟩ := h
  obtain ⟨hdigit, hlength, hdata⟩ := prefixLoop_eq_ok hprefix rfl (by decide)
  obtain ⟨hwithin, rfl⟩ := within_of_read hdigit hlength hne hparse hpos hle hlt
  obtain ⟨rfl, hframe⟩ := Journald.readFull_eq_ok hpayload
  refine ⟨⟨digits, frame⟩, ⟨hne, hdigit, hframe.symm⟩, hwithin, rfl, ?_⟩
  rw [WireFrame.encode, List.append_assoc]
  exact hdata

/-- An end of the bytes that is not noticed is within a length, or right after it. -/
theorem unnoticed_of_isEof {data : List UInt8} {e : ReadError}
    (h : readOctetCountingFrame limit ending data = .error e) (he : e.isEof) :
    ending = .eof ∧ (data = [] ∨ Unnoticed limit data) := by
  simp only [readOctetCountingFrame, bind_eq_error, guard_eq_error, Prod.exists,
    mapError_eq_error] at h
  obtain hprefix | ⟨digits, left, hprefix, ⟨-, rfl⟩ | ⟨hne, h⟩⟩ := h
  · obtain ⟨hending, hdigit, hlength⟩ := prefixLoop_eq_eof hprefix he (by decide)
    by_cases hempty : data = []
    · exact ⟨hending, .inl hempty⟩
    · exact ⟨hending, .inr (.inLength hempty hdigit hlength)⟩
  · cases he
  obtain ⟨cause, -, rfl⟩ | ⟨length, hparse, ⟨-, rfl⟩ | ⟨hpos, ⟨-, rfl⟩ | ⟨hle, ⟨-, rfl⟩ |
    ⟨hlt, cause, hpayload, rfl⟩⟩⟩⟩ := h
  · cases he
  · cases he
  · cases he
  · cases he
  obtain ⟨hdigit, hlength, hdata⟩ := prefixLoop_eq_ok hprefix rfl (by decide)
  obtain ⟨hwithin, -⟩ := within_of_read hdigit hlength hne (mapError_eq_ok.1 hparse) hpos hle hlt
  cases ending with
  | failed cause' => cases cause <;> cases he
  | eof =>
    have hleft : left = [] := by
      unfold readFull at hpayload
      split_ifs at hpayload with _ hleft
      · exact hleft
      · cases hpayload
        cases he
    rw [List.nil_append, hleft, List.append_nil] at hdata
    exact ⟨rfl, .inr (hdata ▸ .afterSpace hwithin)⟩

/-- There the end of the bytes is not noticed. -/
theorem Unnoticed.isEof {data : List UInt8} (h : Unnoticed limit data) :
    ∃ e, readOctetCountingFrame limit .eof data = .error e ∧ e.isEof := by
  cases h with
  | inLength hne hdigit hlength =>
    refine ⟨⟨"read RFC6587 length prefix", some .eof⟩, ?_, rfl⟩
    have hloop : prefixLoop .eof [] (data ++ []) = prefixLoop .eof ([] ++ data) [] :=
      prefixLoop_append hdigit [] hlength []
    rw [List.append_nil, List.nil_append, prefixLoop, if_neg fun h => hne h.2] at hloop
    rw [readOctetCountingFrame, hloop]
    rfl
  | @afterSpace digits hwithin =>
    have hempty : readFull (decimalValue digits) [] = .error .eof :=
      (if_neg (Nat.not_le.2 hwithin.pos)).trans (if_pos rfl)
    refine ⟨⟨"read RFC6587 frame payload", some .eof⟩, ?_, rfl⟩
    rw [← List.append_nil (WireFrame.header digits), readOctetCountingFrame_header hwithin, hempty]
    rfl

/-- **Where the end of the bytes is taken for the end of the connection.** -/
theorem readOctetCountingFrame_isEof {data : List UInt8} :
    (∃ e, readOctetCountingFrame limit ending data = .error e ∧ e.isEof) ↔
      ending = .eof ∧ (data = [] ∨ Unnoticed limit data) := by
  refine ⟨fun ⟨e, h, he⟩ => unnoticed_of_isEof h he, ?_⟩
  rintro ⟨rfl, rfl | hcut⟩
  · exact ⟨ioEof, rfl, rfl⟩
  · exact hcut.isEof

end

/-! ## Rounds -/

section

variable {σ ε Result : Type}

section

variable (adapter : Adapter σ ε Result) (connection : Connection σ) (config : TcpConfig σ ε Result)

/-- A round begins: the deadline is set, and `Begin` returns a session. -/
def Begun (s : σ) (session : Session σ ε Result) (s' : σ) : Prop :=
  connection.setReadDeadline s = none ∧ (adapter.begin config.metadata).on s = (.ok session, s')

/-- **Frames are admitted one after the other**: for each of them a round begins and `Accept`
succeeds. -/
inductive Admitted : σ → List (List UInt8) → σ → Prop
  | nil (s : σ) : Admitted s [] s
  | cons {s s₁ s₂ s' : σ} {session : Session σ ε Result} {frame : List UInt8}
      {frames : List (List UInt8)} {result : Result}
      (hbegun : Begun adapter connection config s session s₁)
      (haccepted : (session.accept (messageOf frame)).on s₁ = (.ok result, s₂))
      (h : Admitted s₂ frames s') : Admitted s (frame :: frames) s'

end

variable {adapter : Adapter σ ε Result} {connection : Connection σ} {config : TcpConfig σ ε Result}
  {s s' s₁ s₂ : σ} {session : Session σ ε Result} {data rest frame : List UInt8}

/-- A round whose frame is accepted. -/
theorem serve_accepted {result : Result} (hbegun : Begun adapter connection config s session s₁)
    (hread : readOctetCountingFrame config.maxFrameSize connection.ending data = .ok (frame, rest))
    (haccepted : (session.accept (messageOf frame)).on s₁ = (.ok result, s₂)) :
    serve adapter connection config s data = serve adapter connection config s₂ rest := by
  rw [serve, hbegun.1, hbegun.2]
  dsimp only
  rw [hread]
  dsimp only
  rw [haccepted]

/-- A round whose frame is not accepted. -/
theorem serve_refused {e : ε} (hbegun : Begun adapter connection config s session s₁)
    (hread : readOctetCountingFrame config.maxFrameSize connection.ending data = .ok (frame, rest))
    (haccept : (session.accept (messageOf frame)).on s₁ = (.error e, s₂)) :
    serve adapter connection config s data = ⟨.error (.admission e), s₂⟩ := by
  rw [serve, hbegun.1, hbegun.2]
  dsimp only
  rw [hread]
  dsimp only
  rw [haccept]

/-- A round without a frame. -/
theorem serve_end {e : ReadError} (hbegun : Begun adapter connection config s session s₁)
    (hread : readOctetCountingFrame config.maxFrameSize connection.ending data = .error e) :
    serve adapter connection config s data =
      ⟨if e.isEof then .ok () else .error (.own e), s₁⟩ := by
  rw [serve, hbegun.1, hbegun.2]
  dsimp only
  rw [hread]

/-- A round that does not begin. -/
theorem serve_notBegun {e : ε} (hdeadline : connection.setReadDeadline s = none)
    (hbegin : (adapter.begin config.metadata).on s = (.error e, s₁)) :
    serve adapter connection config s data = ⟨.error (.admission e), s₁⟩ := by
  rw [serve, hdeadline, hbegin]

/-- **After admitted frames the rest is served.** -/
theorem serve_admitted {frames : List WireFrame} (hvalid : ∀ f ∈ frames, f.Valid)
    (hwithin : ∀ f ∈ frames, WireFrame.Within config.maxFrameSize f.digits)
    (h : Admitted adapter connection config s (frames.map WireFrame.payload) s')
    (rest : List UInt8) :
    serve adapter connection config s (wire frames ++ rest) =
      serve adapter connection config s' rest := by
  induction frames generalizing s with
  | nil =>
    cases h
    rfl
  | cons f frames ih =>
    obtain ⟨hf, hframes⟩ := List.forall_mem_cons.1 hvalid
    obtain ⟨hfits, hrest⟩ := List.forall_mem_cons.1 hwithin
    rw [List.map_cons] at h
    cases h with
    | cons hbegun haccepted h =>
      rw [wire_cons, List.append_assoc, serve_accepted hbegun
        (readOctetCountingFrame_encode hf hfits _) haccepted, ih hframes hrest h]

/-! ## Frames that are sent -/

theorem Frame.valid_wire (frame : Frame) : frame.wire.Valid where
  digits_ne := decimalBytes_ne_nil _
  digit := all_isAsciiDigit_decimalBytes _
  length := decimalValue_decimalBytes _

theorem Frame.within_wire (frame : Frame) {limit : ℕ} (h : frame.bytes.length ≤ limit) :
    WireFrame.Within limit frame.wire.digits where
  digits_ne := decimalBytes_ne_nil _
  digit := all_isAsciiDigit_decimalBytes _
  length_le := length_decimalBytes_le _ (by decide) (frame.length_lt.trans (by decide))
  pos := by
    rw [Frame.wire, decimalValue_decimalBytes]
    exact List.length_pos_of_ne_nil frame.ne
  le := by rwa [Frame.wire, decimalValue_decimalBytes]
  lt := by
    rw [Frame.wire, decimalValue_decimalBytes]
    exact frame.length_lt

end

/-! ## A boundary -/

/-- A preparer that passes payloads on. -/
def samplePreparer : Preparer (List (List UInt8)) String (List UInt8) where
  begin _ := pure ⟨fun request => pure request.rawPayload⟩

/-- An acceptor that keeps up to one payload. -/
def sampleAcceptor : DurableAcceptor (List (List UInt8)) String (List UInt8) where
  accept payload := .of fun kept =>
    if kept = [] then (.ok (), [payload]) else (.error "the stream is full", kept)

def sampleConfig : TcpConfig (List (List UInt8)) String (List UInt8) where
  preparer := some samplePreparer
  acceptor := some sampleAcceptor
  metadata := ⟨"", "tenant-a", "syslog-a", "sensor-a", "peer-a", ""⟩
  maxFrameSize := 1024
  readTimeout := 1000000000
  maxConnectionRate := 10
  concurrentConnections := 1

/-! ## Connections that end within a frame -/

section

variable {σ ε Result : Type} {adapter : Adapter σ ε Result} {connection : Connection σ}
  {config : TcpConfig σ ε Result} {s s' s₁ s₂ : σ} {session : Session σ ε Result}
  {data rest frame : List UInt8}

/-- **A connection that was handled without an error has ended on a frame boundary.** -/
def Reported (connection : Connection σ) (config : TcpConfig σ ε Result) (s : σ) : Prop :=
  (handleTcpConnection (some connection) config s).result = .ok () →
    connection.ending = .eof ∧ OnFrameBoundary connection.data

/-- After some frames that are admitted, and when one more round has begun, a connection ends with
some bytes. -/
structure EndsWith (adapter : Adapter σ ε Result) (connection : Connection σ)
    (config : TcpConfig σ ε Result) (s : σ) (data : List UInt8) (frames : List WireFrame)
    (left : List UInt8) : Prop where
  ending : connection.ending = .eof
  data_eq : data = wire frames ++ left
  valid : ∀ f ∈ frames, f.Valid
  within : ∀ f ∈ frames, WireFrame.Within config.maxFrameSize f.digits
  admitted : ∃ s', Admitted adapter connection config s (frames.map WireFrame.payload) s' ∧
    ∃ session s₁, Begun adapter connection config s' session s₁

/-- **A cut that is not noticed**: after some frames that are admitted, the connection ends in the
length of the next one or right after its space. -/
def CutUnnoticed (connection : Connection σ) (config : TcpConfig σ ε Result) (s : σ) : Prop :=
  validateTcpConfig config = .ok () ∧ ∃ adapter frames left,
    newAdapter config.preparer config.acceptor = .ok adapter ∧
      EndsWith adapter connection config s connection.data frames left ∧
        Unnoticed config.maxFrameSize left

/-- The error that ends the bytes is taken for the end. -/
theorem EndsWith.serve {frames : List WireFrame} {left : List UInt8}
    (h : EndsWith adapter connection config s data frames left)
    (hleft : left = [] ∨ Unnoticed config.maxFrameSize left) :
    (serve adapter connection config s data).result = .ok () := by
  obtain ⟨s', hadmitted, session, s₁, hbegun⟩ := h.admitted
  obtain ⟨e, hread, he⟩ := readOctetCountingFrame_isEof.2 ⟨h.ending, hleft⟩
  rw [h.data_eq, serve_admitted h.valid h.within hadmitted, serve_end hbegun hread, if_pos he]

/-- **A connection is handled without an error only if it ends after a frame, or is cut where that
is not noticed.** -/
theorem exists_endsWith (h : (serve adapter connection config s data).result = .ok ()) :
    ∃ frames left, EndsWith adapter connection config s data frames left ∧
      (left = [] ∨ Unnoticed config.maxFrameSize left) := by
  fun_induction serve adapter connection config s data with
  | case1 s data text hdeadline => exact nomatch h
  | case2 s data hdeadline e s₁ hbegin => exact nomatch h
  | case3 s data hdeadline session s₁ hbegin e hread =>
    have he : e.isEof := by
      by_contra hnot
      rw [if_neg hnot] at h
      exact nomatch h
    obtain ⟨hending, hleft⟩ := readOctetCountingFrame_isEof.1 ⟨e, hread, he⟩
    refine ⟨[], data, ?_, hleft⟩
    exact ⟨hending, rfl, fun _ hf => (nomatch hf), fun _ hf => (nomatch hf), s, .nil s, session,
      s₁, hdeadline, hbegin⟩
  | case4 s data hdeadline session s₁ hbegin frame rest hread e s₂ haccept => exact nomatch h
  | case5 s data hdeadline session s₁ hbegin frame rest hread result s₂ haccept ih =>
    obtain ⟨frames, left, hends, hleft⟩ := ih h
    obtain ⟨f, hvalid, hwithin, rfl, rfl⟩ := readOctetCountingFrame_eq_ok hread
    obtain ⟨s', hadmitted, hbegun⟩ := hends.admitted
    refine ⟨f :: frames, left, ⟨hends.ending, ?_, ?_, ?_, s', ?_, hbegun⟩, hleft⟩
    · rw [hends.data_eq, wire_cons, List.append_assoc]
    · exact List.forall_mem_cons.2 ⟨hvalid, hends.valid⟩
    · exact List.forall_mem_cons.2 ⟨hwithin, hends.within⟩
    · exact .cons ⟨hdeadline, hbegin⟩ haccept hadmitted

/-- Two headers that something starts with are the same. -/
theorem header_append_inj {digits digits' : List UInt8} {left left' : List UInt8}
    (hdigit : digits.all isAsciiDigit) (hdigit' : digits'.all isAsciiDigit)
    (h : WireFrame.header digits ++ left = WireFrame.header digits' ++ left') :
    digits = digits' ∧ left = left' := by
  rw [WireFrame.header, WireFrame.header, List.append_assoc, List.append_assoc] at h
  exact Separated.append_cons_inj (space_notMem_of_digits hdigit) (space_notMem_of_digits hdigit') h

/-- What is not noticed is not made of frames. -/
theorem Unnoticed.ne_wire {limit : ℕ} {left : List UInt8} (h : Unnoticed limit left) :
    ∀ {frames : List WireFrame}, (∀ f ∈ frames, f.Valid) → left ≠ wire frames
  | [], _, heq => by
      cases h with
      | inLength hne hdigit hlength => exact hne heq
      | afterSpace hwithin => exact List.append_ne_nil_of_right_ne_nil _ (List.cons_ne_nil _ _) heq
  | f :: frames, hvalid, heq => by
      have hf := hvalid f List.mem_cons_self
      rw [wire_cons, WireFrame.encode, List.append_assoc] at heq
      cases h with
      | inLength hne hdigit hlength =>
        refine space_notMem_of_digits hdigit ?_
        rw [heq, WireFrame.header]
        simp
      | afterSpace hwithin =>
        rw [← List.append_nil (WireFrame.header _)] at heq
        obtain ⟨hdigits, hleft⟩ := header_append_inj hwithin.digit hf.digit heq
        have hpayload : f.payload = [] := (List.append_eq_nil_iff.1 hleft.symm).1
        have hpos := hwithin.pos
        rw [hdigits, hf.length, hpayload] at hpos
        exact Nat.lt_irrefl 0 hpos

/-- **What is not noticed is no frame boundary.** -/
theorem not_onFrameBoundary {limit : ℕ} {frames : List WireFrame} (hvalid : ∀ f ∈ frames, f.Valid)
    {left : List UInt8} (h : Unnoticed limit left) : ¬ OnFrameBoundary (wire frames ++ left) := by
  rintro ⟨frames', hvalid', heq⟩
  induction frames generalizing frames' with
  | nil => exact h.ne_wire hvalid' heq
  | cons f frames ih =>
    obtain ⟨hf, hframes⟩ := List.forall_mem_cons.1 hvalid
    match frames', hvalid' with
    | [], _ =>
      rw [wire_cons, WireFrame.encode, WireFrame.header] at heq
      simp [wire] at heq
    | f' :: frames', hvalid' =>
      obtain ⟨hf', hframes'⟩ := List.forall_mem_cons.1 hvalid'
      rw [wire_cons, wire_cons, WireFrame.encode, WireFrame.encode] at heq
      simp only [List.append_assoc] at heq
      obtain ⟨hdigits, hrest⟩ := header_append_inj hf.digit hf'.digit heq
      have hlength : f.payload.length = f'.payload.length := by
        rw [← hf.length, ← hf'.length, hdigits]
      exact ih hframes frames' hframes' (List.append_inj hrest hlength).2

/-- **The end of a connection is reported, unless it is cut where that is not noticed.** -/
theorem reported_iff (connection : Connection σ) (config : TcpConfig σ ε Result) (s : σ) :
    Reported connection config s ↔ ¬ CutUnnoticed connection config s := by
  constructor
  · rintro hreported ⟨hconfig, adapter, frames, left, hadapter, hends, hleft⟩
    have hserve := hends.serve (.inr hleft)
    have hhandle : (handleTcpConnection (some connection) config s).result = .ok () := by
      rw [handleTcpConnection, hconfig]
      dsimp only
      rw [hadapter]
      exact hserve
    have hboundary := (hreported hhandle).2
    rw [hends.data_eq] at hboundary
    exact not_onFrameBoundary hends.valid hleft hboundary
  · intro hnoticed hhandle
    rw [handleTcpConnection] at hhandle
    match hconfig : validateTcpConfig config, hhandle with
    | .ok (), hhandle =>
      dsimp only at hhandle
      match hadapter : newAdapter config.preparer config.acceptor, hhandle with
      | .ok adapter, hhandle =>
        obtain ⟨frames, left, hends, rfl | hleft⟩ := exists_endsWith hhandle
        · exact ⟨hends.ending, frames, hends.valid, by rw [hends.data_eq, List.append_nil]⟩
        · exact absurd ⟨hconfig, adapter, frames, left, hadapter, hends, hleft⟩ hnoticed

end

/-! ## Cuts that are not noticed -/

/-- **A connection that is cut in a length, or after its space, is handled without an error.** -/
theorem not_reported_cut :
    ¬ Reported ⟨bytes "5", .eof, fun _ => none⟩ sampleConfig [] ∧
      ¬ Reported ⟨bytes "5 ", .eof, fun _ => none⟩ sampleConfig [] := by
  have hcut : ∀ data, Unnoticed sampleConfig.maxFrameSize data →
      ¬ Reported ⟨data, .eof, fun _ => none⟩ sampleConfig [] := by
    intro data hdata hreported
    have hends : EndsWith ⟨samplePreparer, sampleAcceptor⟩ ⟨data, .eof, fun _ => none⟩
        sampleConfig [] data [] data :=
      ⟨rfl, rfl, fun _ hf => (nomatch hf), fun _ hf => (nomatch hf), [], .nil _, _, _, rfl, rfl⟩
    have hboundary : OnFrameBoundary data := (hreported (hends.serve (.inr hdata))).2
    exact not_onFrameBoundary (fun _ hf => (nomatch hf) : ∀ f ∈ [], WireFrame.Valid f) hdata
      hboundary
  refine ⟨hcut _ (.inLength (by decide) (by decide) (by decide)), ?_⟩
  have hwithin : WireFrame.Within sampleConfig.maxFrameSize (bytes "5") :=
    ⟨by decide, by decide, by decide, by decide, by decide, by decide⟩
  exact hcut _ (.afterSpace hwithin)

end SyslogIngest

end Cerbero
