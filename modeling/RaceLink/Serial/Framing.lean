import RaceLink.Library.Except
import RaceLink.Library.LittleEndian
import RaceLink.Python.Value

/-! Frames on the serial line of a gateway (`transport/gateway_serial.py`).

A frame is a zero, a length, and so many bytes, the first of which is its type. The
reader is fed whatever a read returns. `reader_dispatches` says that the frames of a
stream are handled once each and in order, whatever stands between them, however the
stream is cut and whatever the handler does, and that the frames of the host read back
as what was sent. -/
namespace RaceLink.Serial
open Library Python

/-! ### The reader -/

/-- What `_handle_frame` is given. -/
structure RxFrame where
  typeByte : UInt8
  data : Bytes
deriving DecidableEq, Repr

/-- The variables of `_reader`. -/
structure ReaderState where
  inFrame : Bool
  need : Nat
  buf : Bytes
deriving DecidableEq, Repr

def ReaderState.start : ReaderState := ⟨false, 0, []⟩

/-- One byte: the state after it, and the frame it completes. -/
def ReaderState.feed (s : ReaderState) (x : UInt8) : ReaderState × Option RxFrame :=
  if !s.inFrame then if x = 0 then (⟨true, 0, []⟩, none) else (s, none)
  else if s.need = 0 then ({s with need := x.toNat}, none)
  else
    let buf := s.buf ++ [x]
    if buf.length = s.need then
      ({s with inFrame := false, buf}, some ⟨buf.headD 0, buf.tail⟩)
    else ({s with buf}, none)

/-- What a turn of the loop finds: that it was told to stop, that the port is gone, or a chunk,
which may be empty. -/
inductive Turn where
  | stopped
  | failed
  | chunk (bytes : Bytes)

section Reader
variable {σ : Type} (handle : RxFrame → σ → Except PyError Unit × σ)

/-- One byte of a chunk; what the handler raises is logged and forgotten. -/
def readByte (s : ReaderState × σ) (x : UInt8) : ReaderState × σ :=
  match s.1.feed x with
  | (reader, none) => (reader, s.2)
  | (reader, some frame) => (reader, (handle frame s.2).2)

/-- `_reader`; `disconnect` is `_handle_disconnect`. -/
def reader (disconnect : σ → σ) (s : ReaderState × σ) : List Turn → ReaderState × σ
  | [] => s
  | .stopped :: _ => s
  | .failed :: _ => (s.1, disconnect s.2)
  | .chunk bytes :: rest => reader disconnect (bytes.foldl (readByte handle) s) rest

/-- The cuts between chunks do not matter. -/
theorem reader_chunks (disconnect : σ → σ) (s : ReaderState × σ) (chunks : List Bytes) :
    reader handle disconnect s (chunks.map .chunk) = chunks.flatten.foldl (readByte handle) s := by
  induction chunks generalizing s with
  | nil => rfl
  | cons bytes rest ih =>
    rw [List.flatten_cons, List.foldl_append]
    exact ih _

/-! ### A frame -/

/-- A frame whose length fits its byte. -/
structure WireFrame extends RxFrame where
  short : data.length < 255

def WireFrame.encode (f : WireFrame) : Bytes := 0 :: UInt8.ofNat (f.data.length + 1) :: f.typeByte :: f.data

/-- Between frames, or after some of the zeros before one. -/
def ReaderState.Ready (s : ReaderState) : Prop := s.inFrame = false ∨ s.need = 0 ∧ s.buf = []

/-- A zero begins a frame, or takes the place of the one before. -/
theorem readByte_zero {s : ReaderState} (hs : s.Ready) (w : σ) :
    readByte handle (s, w) 0 = (⟨true, 0, []⟩, w) := by
  rcases hs with hs | ⟨hneed, hbuf⟩
  · simp [readByte, ReaderState.feed, hs]
  · obtain ⟨inFrame, need, buf⟩ := s
    cases hneed
    cases hbuf
    cases inFrame <;> rfl

theorem readByte_more {need : Nat} {buf : Bytes} (h : buf.length + 1 < need) (x : UInt8) (w : σ) :
    readByte handle (⟨true, need, buf⟩, w) x = (⟨true, need, buf ++ [x]⟩, w) := by
  have hneed : need ≠ 0 := by omega
  have hlength : (buf ++ [x]).length ≠ need := by
    rw [List.length_append, List.length_singleton]
    omega
  simp only [readByte, ReaderState.feed, Bool.not_true, Bool.false_eq_true, if_false, hneed, hlength]

theorem readByte_last {need : Nat} {buf : Bytes} (h : buf.length + 1 = need) (x : UInt8) (w : σ) :
    readByte handle (⟨true, need, buf⟩, w) x =
      (⟨false, need, buf ++ [x]⟩, (handle ⟨(buf ++ [x]).headD 0, (buf ++ [x]).tail⟩ w).2) := by
  have hneed : need ≠ 0 := by omega
  have hlength : (buf ++ [x]).length = need := by rw [List.length_append, List.length_singleton, h]
  simp only [readByte, ReaderState.feed, Bool.not_true, Bool.false_eq_true, if_false, hneed, hlength, if_true]

/-- Bytes that do not complete the frame are kept. -/
theorem foldl_readByte_partial (need : Nat) (bytes buf : Bytes) (w : σ)
    (h : buf.length + bytes.length < need) :
    bytes.foldl (readByte handle) (⟨true, need, buf⟩, w) = (⟨true, need, buf ++ bytes⟩, w) := by
  induction bytes generalizing buf with
  | nil => simp
  | cons x rest ih =>
    rw [List.length_cons] at h
    have hlength : (buf ++ [x]).length + rest.length < need := by
      rw [List.length_append, List.length_singleton]
      omega
    rw [List.foldl_cons, readByte_more handle (by omega), ih (buf ++ [x]) hlength, List.append_assoc]
    rfl

/-- The payload after its length byte is handled as one frame. -/
theorem foldl_readByte_payload (typeByte : UInt8) (data : Bytes) (w : σ) :
    (typeByte :: data).foldl (readByte handle) (⟨true, data.length + 1, []⟩, w) =
      (⟨false, data.length + 1, typeByte :: data⟩, (handle ⟨typeByte, data⟩ w).2) := by
  obtain ⟨before, last, hlast⟩ : ∃ before last, typeByte :: data = before ++ [last] :=
    ⟨_, _, (List.dropLast_append_getLast (List.cons_ne_nil typeByte data)).symm⟩
  have hlength : before.length + 1 = data.length + 1 := by simpa using (congrArg List.length hlast).symm
  rw [hlast, List.foldl_append,
    foldl_readByte_partial handle _ before [] w (by rw [List.length_nil]; omega), List.nil_append,
    List.foldl_cons, readByte_last handle hlength, ← hlast]
  rfl

/-- **A frame is handled once.** -/
theorem foldl_readByte_encode (f : WireFrame) {s : ReaderState} (hs : s.Ready) (w : σ) :
    f.encode.foldl (readByte handle) (s, w) =
      (⟨false, f.data.length + 1, f.typeByte :: f.data⟩, (handle f.toRxFrame w).2) := by
  have hto : (UInt8.ofNat (f.data.length + 1)).toNat = f.data.length + 1 :=
    UInt8.toNat_ofNat_of_lt' (Nat.succ_lt_succ f.short)
  have hlength : readByte handle (⟨true, 0, []⟩, w) (UInt8.ofNat (f.data.length + 1)) =
      (⟨true, f.data.length + 1, []⟩, w) := by
    simp only [readByte, ReaderState.feed, Bool.not_true, Bool.false_eq_true, if_false, if_true, hto]
  rw [WireFrame.encode, List.foldl_cons, List.foldl_cons, readByte_zero handle hs, hlength]
  exact foldl_readByte_payload handle f.typeByte f.data w

/-! ### What may stand between frames -/

/-- Junk after a frame, and zeros. -/
structure Gap where
  junk : List {x : UInt8 // x ≠ 0}
  zeros : Nat

def Gap.encode (g : Gap) : Bytes := g.junk.map Subtype.val ++ List.replicate g.zeros 0

theorem foldl_readByte_junk (junk : List {x : UInt8 // x ≠ 0}) {s : ReaderState} (hs : s.inFrame = false)
    (w : σ) : (junk.map Subtype.val).foldl (readByte handle) (s, w) = (s, w) := by
  induction junk with
  | nil => rfl
  | cons x rest ih =>
    have hstep : readByte handle (s, w) x.val = (s, w) := by
      simp [readByte, ReaderState.feed, hs, x.property]
    rw [List.map_cons, List.foldl_cons, hstep, ih]

theorem foldl_readByte_zeros (zeros : Nat) {s : ReaderState} (hs : s.Ready) (w : σ) :
    ∃ t, (List.replicate zeros 0).foldl (readByte handle) (s, w) = (t, w) ∧ t.Ready := by
  induction zeros generalizing s with
  | zero => exact ⟨s, rfl, hs⟩
  | succ zeros ih =>
    rw [List.replicate_succ, List.foldl_cons, readByte_zero handle hs]
    exact ih (.inr ⟨rfl, rfl⟩)

/-- Nothing between frames is handled. -/
theorem foldl_readByte_gap (g : Gap) {s : ReaderState} (hs : s.inFrame = false) (w : σ) :
    ∃ t, g.encode.foldl (readByte handle) (s, w) = (t, w) ∧ t.Ready := by
  rw [Gap.encode, List.foldl_append, foldl_readByte_junk handle g.junk hs w]
  exact foldl_readByte_zeros handle g.zeros (.inl hs) w

/-! ### Streams -/

/-- Frames, each with what stands before it. -/
def encodeStream (frames : List (Gap × WireFrame)) (last : Gap) : Bytes :=
  frames.flatMap (fun e => e.1.encode ++ e.2.encode) ++ last.encode

/-- The frames of a stream are handled once each and in order. -/
theorem foldl_readByte_stream (frames : List (Gap × WireFrame)) (last : Gap) {s : ReaderState}
    (hs : s.inFrame = false) (w : σ) :
    ((encodeStream frames last).foldl (readByte handle) (s, w)).2 =
      frames.foldl (fun w e => (handle e.2.toRxFrame w).2) w := by
  induction frames generalizing s w with
  | nil =>
    obtain ⟨t, ht, -⟩ := foldl_readByte_gap handle last hs w
    exact congrArg Prod.snd ht
  | cons e rest ih =>
    obtain ⟨t, hgap, ht⟩ := foldl_readByte_gap handle e.1 hs w
    have hstream : encodeStream (e :: rest) last = e.1.encode ++ (e.2.encode ++ encodeStream rest last) := by
      simp [encodeStream]
    rw [hstream, List.foldl_append, hgap, List.foldl_append, foldl_readByte_encode handle e.2 ht,
      ih rfl, List.foldl_cons]

end Reader

/-! ### What the host writes -/

/-- The bytes of `_send_m2n`; a number that is no byte raises. -/
def sendM2nBytes (typeFull : Int) (recv3 body : Bytes) : Except PyError Bytes :=
  let payload := recv3 ++ body
  if recv3.length ≠ 3 then .error (.valueError "recv3 must be 3 bytes" [])
  else if typeFull < 0 ∨ 255 < typeFull then .error (.valueError "bytes must be in range(0, 256)" [])
  else if 255 < payload.length + 1 then .error (.valueError "bytes must be in range(0, 256)" [])
  else .ok (0 :: UInt8.ofNat (payload.length + 1) :: byte typeFull :: payload)

/-- What is written is a frame of the line, with the type, the receiver and the body in their places. -/
theorem sendM2nBytes_ok {typeFull : Int} {recv3 body bytes : Bytes}
    (h : sendM2nBytes typeFull recv3 body = .ok bytes) :
    ∃ f : WireFrame, bytes = f.encode ∧ (f.typeByte.toNat : Int) = typeFull ∧
      f.data.take 3 = recv3 ∧ f.data.drop 3 = body := by
  obtain ⟨hrecv3, h⟩ := guard_ok.mp h
  obtain ⟨htype, h⟩ := guard_ok.mp h
  obtain ⟨hshort, h⟩ := guard_ok.mp h
  cases h
  rw [not_not] at hrecv3
  have hfits : (recv3 ++ body).length < 255 := by omega
  refine ⟨⟨⟨byte typeFull, recv3 ++ body⟩, hfits⟩, rfl, byte_fits (by omega) (by omega), ?_, ?_⟩
  · exact List.take_left' hrecv3
  · exact List.drop_left' hrecv3

/-- **However a stream of frames is cut into chunks, whatever stands between them and
whatever the handler does or raises, the reader handles each frame once and in order; and
what the host writes reads back, in the same way, as the type, the receiver and the body
that were sent.** -/
theorem reader_dispatches {σ : Type} (handle : RxFrame → σ → Except PyError Unit × σ) (disconnect : σ → σ)
    (w : σ) :
    (∀ (frames : List (Gap × WireFrame)) (last : Gap) (chunks : List Bytes),
      chunks.flatten = encodeStream frames last →
        (reader handle disconnect (.start, w) (chunks.map .chunk)).2 =
          frames.foldl (fun w e => (handle e.2.toRxFrame w).2) w) ∧
    ∀ (typeFull : Int) (recv3 body bytes : Bytes), sendM2nBytes typeFull recv3 body = .ok bytes →
      ∀ chunks : List Bytes, chunks.flatten = bytes →
        ∃ typeByte, (typeByte.toNat : Int) = typeFull ∧
          (reader handle disconnect (.start, w) (chunks.map .chunk)).2 =
            (handle ⟨typeByte, recv3 ++ body⟩ w).2 ∧
          (recv3 ++ body).take 3 = recv3 ∧ (recv3 ++ body).drop 3 = body := by
  constructor
  · intro frames last chunks hchunks
    rw [reader_chunks, hchunks]
    exact foldl_readByte_stream handle frames last rfl w
  · intro typeFull recv3 body bytes hbytes chunks hchunks
    obtain ⟨f, rfl, htype, htake, hdrop⟩ := sendM2nBytes_ok hbytes
    have hdata : f.data = recv3 ++ body := by rw [← htake, ← hdrop, List.take_append_drop]
    rw [← hdata]
    refine ⟨f.typeByte, htype, ?_, htake, hdrop⟩
    rw [reader_chunks, hchunks, foldl_readByte_encode handle f (.inl rfl)]

/-- Two frames with junk and zeros between them, cut in the middle of both, with a handler
that raises every time; and a frame of the host with an empty body, in one piece. -/
theorem reader_dispatches_two :
    (reader (fun frame log => (.error .typeError, log ++ [frame])) id (.start, [])
      [.chunk [0], .chunk [2, 7, 0, 5, 9, 0], .chunk [0, 1], .chunk [8]]).2 = [⟨7, [0]⟩, ⟨8, []⟩] ∧
    ∃ typeByte : UInt8, (typeByte.toNat : Int) = 3 ∧
      (reader (fun frame log => (.error .typeError, log ++ [frame])) id (.start, [])
        [.chunk [0, 4, 3, 1, 2, 4]]).2 = [⟨typeByte, [1, 2, 4]⟩] := by
  have hdispatches := reader_dispatches (fun frame log => (.error .typeError, log ++ [frame])) id []
  refine ⟨hdispatches.1
    [(⟨[], 0⟩, ⟨⟨7, [0]⟩, by decide⟩), (⟨[⟨5, by decide⟩, ⟨9, by decide⟩], 1⟩, ⟨⟨8, []⟩, by decide⟩)] ⟨[], 0⟩
    [[0], [2, 7, 0, 5, 9, 0], [0, 1], [8]] rfl, ?_⟩
  obtain ⟨typeByte, htype, hread, -⟩ := hdispatches.2 3 [1, 2, 4] [] [0, 4, 3, 1, 2, 4] (by decide)
    [[0, 4, 3, 1, 2, 4]] rfl
  exact ⟨typeByte, htype, hread⟩

end RaceLink.Serial
