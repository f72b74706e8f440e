import Mathlib.Order.WellFounded
import DiagramDesk.Codec.Decoder
import DiagramDesk.Proofs.Codec.SelfDelimiting
import DiagramDesk.Proofs.Codec.Zlib

/-!
The loop that expands a byte string into a buffer that grows. If the decoder goes
on where it stopped, every turn amounts to a single call with all the room so far;
so the loop ends, and gives what a single call with room enough would give, whatever
the capacities. If the decoder was told that its first call is the last one, growing
is of no use: only what fits the first buffer is expanded.
-/
namespace DiagramDesk

namespace Decoder

variable {d : Decoder}

/-- The call stopped before the end, and its room is used up. -/
def Call.IsShort {State : Type} (c : Call State) (room : Nat) : Prop :=
  c.status ≠ .ended ∧ c.written.length = room

/-- Two calls seen as one. -/
def Call.andThen {State : Type} (c next : Call State) : Call State :=
  ⟨next.status, c.consumed + next.consumed, c.written ++ next.written, next.state⟩

/-- Room is not what keeps the first call from going on. -/
def Settled (d : Decoder) (input : List UInt8) (room : Nat) : Prop :=
  ∀ c, d.call d.start input room = some c → ¬ c.IsShort room

/-- What a decoder promises that goes on where it stopped: a call that is short of room and another
one are as good as one call with the room of both, room that is not needed makes no difference, and
there is only so much to write for an input. -/
structure Resumes (d : Decoder) : Prop where
  resume : ∀ {input room c}, d.call d.start input room = some c → c.IsShort room → ∀ more,
    d.call d.start input (room + more) =
      (d.call c.state (input.drop c.consumed) more).map c.andThen
  spare : ∀ {input room}, d.Settled input room → ∀ more,
    d.call d.start input (room + more) = d.call d.start input room
  fits : ∀ {input room c}, d.call d.start input room = some c → c.written.length ≤ room
  finite : ∀ input, ∃ room, d.Settled input room

/-- What a single call on `n` bytes says of them: the content if they are a whole stream. -/
def verdict {State : Type} (n : Nat) : Option (Call State) → Option (List UInt8)
  | none => none
  | some c => if c.status = .ended ∧ c.consumed = n then some c.written else none

/-- The first call expands a stream whose content has room. -/
def ReadsStreams (d : Decoder) : Prop :=
  ∀ bytes room, verdict bytes.length (d.call d.start bytes room) =
    (Zlib.decompress? bytes).filter fun content => content.length ≤ room

/-! ### Decoders that go on -/

namespace Resumes

variable (h : d.Resumes) {bytes : List UInt8} {room more : Nat}

include h

theorem settled_add (hs : d.Settled bytes room) : d.Settled bytes (room + more) := by
  intro c hc hshort
  rw [h.spare hs] at hc
  have hfits := h.fits hc
  obtain rfl : more = 0 := by have := hshort.2; omega
  exact hs c hc hshort

theorem settled_of_le {room' : Nat} (hs : d.Settled bytes room) (hle : room ≤ room') :
    d.Settled bytes room' := by
  obtain ⟨more, rfl⟩ := Nat.exists_eq_add_of_le hle
  exact h.settled_add hs

/-- All settled calls agree. -/
theorem call_eq {room' : Nat} (hs : d.Settled bytes room) (hs' : d.Settled bytes room') :
    d.call d.start bytes room = d.call d.start bytes room' := by
  rcases Nat.le_total room room' with hle | hle
  · obtain ⟨more, rfl⟩ := Nat.exists_eq_add_of_le hle
    exact (h.spare hs more).symm
  · obtain ⟨more, rfl⟩ := Nat.exists_eq_add_of_le hle
    exact h.spare hs' more

/-- A settled call expands whatever is a stream. -/
theorem verdict_of_settled (hz : d.ReadsStreams) (hs : d.Settled bytes room) :
    verdict bytes.length (d.call d.start bytes room) = Zlib.decompress? bytes := by
  cases hd : Zlib.decompress? bytes with
  | none => rw [hz, hd, Option.filter_none]
  | some content =>
    rw [← h.spare hs content.length, hz, hd]
    simp

end Resumes

/-- A buffer seen as what one call has written. -/
def Buffer.soFar (b : d.Buffer) : Call d.State := ⟨.ok, b.consumed, b.content, b.state⟩

/-- Going on from the buffer is as good as a single call with all the room. -/
def Buffer.IsReached (bytes : List UInt8) (b : d.Buffer) : Prop :=
  ∀ more, d.call d.start bytes (b.content.length + more) =
    (d.call b.state (bytes.drop b.consumed) more).map b.soFar.andThen

theorem isReached_start (bytes : List UInt8) : ({} : d.Buffer).IsReached bytes := by
  intro more
  cases hc : d.call d.start bytes more <;> simp [Buffer.soFar, Call.andThen, hc]

section Turn

variable {bytes : List UInt8} {b : d.Buffer} {capacity : Nat} (hb : b.IsReached bytes)
  (hle : b.content.length ≤ capacity)

include hb hle

theorem call_of_reached :
    d.call d.start bytes capacity =
      (d.call b.state (bytes.drop b.consumed) (capacity - b.content.length)).map
        b.soFar.andThen := by
  rw [← hb, Nat.add_sub_cancel' hle]

/-- A turn ends the loop if a single call with the room of the buffer is settled. -/
theorem turn_settled (hs : d.Settled bytes capacity) :
    d.turn bytes capacity b = .inl (verdict bytes.length (d.call d.start bytes capacity)) := by
  have hwhole := call_of_reached hb hle
  unfold turn
  cases hc : d.call b.state (bytes.drop b.consumed) (capacity - b.content.length) with
  | none => simp [hwhole, hc, verdict]
  | some c =>
    rw [hc, Option.map_some] at hwhole
    have hlong : ¬ (c.status ≠ .ended ∧ (b.content ++ c.written).length = capacity) :=
      hs _ hwhole
    by_cases hended : c.status = .ended
    · by_cases hall : b.consumed + c.consumed = bytes.length <;>
        simp [hwhole, verdict, Buffer.append, Buffer.soFar, Call.andThen, hended, hall]
    · have hroom : (b.content ++ c.written).length ≠ capacity := fun he => hlong ⟨hended, he⟩
      simp [hwhole, verdict, Buffer.append, Buffer.soFar, Call.andThen, hended, -List.length_append,
        hroom]

/-- Else the buffer is full, and the next turn can rely on it as this one could. -/
theorem turn_short (h : d.Resumes) (hs : ¬ d.Settled bytes capacity) :
    ∃ b', d.turn bytes capacity b = .inr b' ∧ b'.IsReached bytes ∧
      b'.content.length = capacity := by
  have hwhole := call_of_reached hb hle
  simp only [Settled, not_forall, not_not] at hs
  obtain ⟨whole, hcall, hshort⟩ := hs
  unfold turn
  cases hc : d.call b.state (bytes.drop b.consumed) (capacity - b.content.length) with
  | none => simp [hwhole, hc] at hcall
  | some c =>
    rw [hc, Option.map_some, hcall, Option.some.injEq] at hwhole
    subst hwhole
    have hended : c.status ≠ .ended := hshort.1
    have hfull : (b.append c).content.length = capacity := hshort.2
    refine ⟨b.append c, by simp only [hended, if_false, hfull, if_true], fun more => ?_, hfull⟩
    rw [hfull, h.resume hcall hshort]
    rfl

end Turn

/-- From a buffer that was reached, the loop gives what a settled call says. -/
theorem fill_of_settled (h : d.Resumes) {bytes : List UInt8} {room : Nat}
    (hs : d.Settled bytes room) {capacity : Nat → Nat} (hc : StrictMono capacity) {n k : Nat}
    {b : d.Buffer} (hb : b.IsReached bytes) (hle : b.content.length ≤ capacity k)
    (hroom : room ≤ capacity (k + n)) {turns : Nat} (ht : n < turns) :
    d.fill bytes capacity turns k b =
      some (verdict bytes.length (d.call d.start bytes room)) := by
  -- `n` bounds the turns until the capacity is that of the settled call.
  induction n generalizing k b turns with
  | zero =>
    obtain ⟨turns, rfl⟩ : ∃ t, turns = t + 1 := ⟨turns - 1, by omega⟩
    have hk : d.Settled bytes (capacity k) := h.settled_of_le hs hroom
    rw [fill, turn_settled hb hle hk, h.call_eq hs hk]
  | succ n ih =>
    obtain ⟨turns, rfl⟩ : ∃ t, turns = t + 1 := ⟨turns - 1, by omega⟩
    rw [fill]
    by_cases hk : d.Settled bytes (capacity k)
    · rw [turn_settled hb hle hk, h.call_eq hs hk]
    · obtain ⟨b', hturn, hb', hfull⟩ := turn_short hb hle h hk
      rw [hturn]
      refine ih hb' ?_ ?_ (by omega)
      · rw [hfull]
        exact (hc (Nat.lt_succ_self k)).le
      · rwa [Nat.add_right_comm]

/-- With a decoder that goes on, the loop ends and expands exactly the streams. -/
theorem inflate_eq_decompress? (h : d.Resumes) (hz : d.ReadsStreams) {capacity : Nat → Nat}
    (hc : StrictMono capacity) (bytes : List UInt8) :
    ∃ n, ∀ turns, n ≤ turns → d.inflate capacity turns bytes = some (Zlib.decompress? bytes) := by
  obtain ⟨room, hs⟩ := h.finite bytes
  refine ⟨room + 1, fun turns ht => ?_⟩
  rw [← h.verdict_of_settled hz hs]
  refine fill_of_settled h hs hc (isReached_start bytes) (Nat.zero_le _) ?_ ht
  rw [Nat.zero_add]
  exact hc.le_apply

/-! ### Decoders that do not go on -/

theorem turn_once_spent (d : Decoder) (bytes : List UInt8) (capacity consumed : Nat)
    (content : List UInt8) :
    d.once.turn bytes capacity ⟨none, consumed, content⟩ = .inl none := rfl

/-- The first turn answers, unless the buffer is full too early. -/
theorem turn_once_start (d : Decoder) (bytes : List UInt8) (capacity : Nat) :
    d.once.turn bytes capacity {} =
        .inl (verdict bytes.length (d.call d.start bytes capacity)) ∨
      verdict bytes.length (d.call d.start bytes capacity) = none ∧
        ∃ consumed content, d.once.turn bytes capacity {} = .inr ⟨none, consumed, content⟩ := by
  have hcall : d.once.call d.once.start bytes capacity =
      (d.call d.start bytes capacity).map fun c =>
        ⟨if c.status = .ended then .ended else .stuck, c.consumed, c.written, none⟩ := rfl
  unfold turn
  simp only [List.drop_zero, List.length_nil, Nat.sub_zero, hcall]
  cases hc : d.call d.start bytes capacity with
  | none => exact .inl rfl
  | some c =>
    by_cases hended : c.status = .ended
    · refine .inl ?_
      by_cases hall : c.consumed = bytes.length <;>
        simp [verdict, Buffer.append, hended, hall]
    · have hnone : verdict bytes.length (some c) = none := by simp [verdict, hended]
      by_cases hfull : c.written.length = capacity
      · exact .inr ⟨hnone, c.consumed, c.written, by simp [Buffer.append, hended, hfull]⟩
      · exact .inl (by simp [Buffer.append, hended, hfull, hnone])

/-- A decoder whose first call is its last one answers by that call. -/
theorem inflate_once (d : Decoder) (capacity : Nat → Nat) (bytes : List UInt8) {turns : Nat}
    (ht : 2 ≤ turns) :
    d.once.inflate capacity turns bytes =
      some (verdict bytes.length (d.call d.start bytes (capacity 0))) := by
  obtain ⟨turns, rfl⟩ : ∃ t, turns = t + 2 := ⟨turns - 2, by omega⟩
  rw [inflate, fill]
  obtain hfirst | ⟨hnone, consumed, content, hfirst⟩ := turn_once_start d bytes (capacity 0)
  · rw [hfirst]
  · rw [hfirst, hnone]
    simp only [fill, turn_once_spent]

theorem strictMono_doubling (n : Nat) : StrictMono (doubling n) := by
  refine strictMono_nat_of_lt_succ fun k => ?_
  have hroom : 0 < Zlib.room n := by simp [Zlib.room]
  have hpos : 0 < doubling n k := by
    rw [doubling, Nat.shiftLeft_eq]
    exact Nat.mul_pos hroom (Nat.two_pow_pos k)
  have hnext : doubling n (k + 1) = 2 * doubling n k := Nat.shiftLeft_succ _ _
  omega

end Decoder

namespace Zlib

/-! ### A decoder of streams -/

/-- What stands at the head of some bytes is a stream, and they are a stream if it is all of them. -/
theorem decompress?_eq_ahead? (bytes : List UInt8) :
    decompress? bytes = (ahead? bytes).bind fun (content, length) =>
      if length = bytes.length then some content else none := by
  cases h : ahead? bytes with
  | none =>
    have hall := List.findSome?_eq_none_iff.mp h bytes.length (by simp)
    simpa using hall
  | some found =>
    obtain ⟨content, n⟩ := found
    obtain ⟨m, hm, hfound⟩ := List.exists_of_findSome?_eq_some h
    simp only [Option.map_eq_some_iff, Prod.mk.injEq] at hfound
    obtain ⟨_, hstream, rfl, rfl⟩ := hfound
    simp only [Option.bind_some]
    by_cases hn : m = bytes.length
    · rw [if_pos hn, ← hstream, hn, List.take_length]
    · have hrest : bytes.drop m ≠ [] := by
        have := List.mem_range.mp hm
        rw [Ne, List.drop_eq_nil_iff]
        omega
      simpa [hn] using decompress?_append _ _ _ hstream hrest

theorem readsStreams_decoder : decoder.ReadsStreams := by
  intro bytes room
  rw [decompress?_eq_ahead?]
  simp only [decoder]
  cases ahead? bytes with
  | none => rfl
  | some found =>
    obtain ⟨content, n⟩ := found
    by_cases hfits : content.length ≤ room <;> by_cases hn : n = bytes.length <;>
      simp [Decoder.verdict, Option.filter, hfits, hn]

/-- A first call is at the end of the stream, or has written as much as there is room for. -/
theorem call_decoder {bytes content : List UInt8} {n : Nat} (h : ahead? bytes = some (content, n))
    (room : Nat) :
    decoder.call decoder.start bytes room =
      if content.length ≤ room then some ⟨.ended, n, content, content.length⟩
      else some ⟨.ok, 0, content.take room, room⟩ := by
  simp only [decoder, h, Option.map_some, Nat.zero_add, List.drop_zero]
  split <;> rfl

theorem settled_decoder_iff {bytes content : List UInt8} {n : Nat}
    (h : ahead? bytes = some (content, n)) (room : Nat) :
    decoder.Settled bytes room ↔ content.length ≤ room := by
  unfold Decoder.Settled Decoder.Call.IsShort
  rw [call_decoder h]
  by_cases hfits : content.length ≤ room
  · simp [hfits]
  · simp [hfits]
    omega

theorem call_decoder_none {bytes : List UInt8} (h : ahead? bytes = none) (room : Nat) :
    decoder.call decoder.start bytes room = none := by
  simp [decoder, h]

theorem resumes_decoder : decoder.Resumes where
  resume := by
    intro input room c hc hshort more
    cases h : ahead? input with
    | none => simp [call_decoder_none h] at hc
    | some found =>
      obtain ⟨content, n⟩ := found
      rw [call_decoder h] at hc ⊢
      by_cases hfits : content.length ≤ room
      · simp only [hfits, if_true, Option.some.injEq] at hc
        exact absurd (hc ▸ rfl) hshort.1
      · simp only [hfits, if_false, Option.some.injEq] at hc
        subst hc
        simp only [decoder, List.drop_zero, h, Option.map_some]
        by_cases hmore : content.length ≤ room + more
        · simp [hmore, Decoder.Call.andThen, List.take_append_drop]
        · simp [hmore, Decoder.Call.andThen, List.take_add]
  spare := by
    intro input room hs more
    cases h : ahead? input with
    | none => simp [call_decoder_none h]
    | some found =>
      have hfits := (settled_decoder_iff h room).mp hs
      rw [call_decoder h, call_decoder h, if_pos hfits, if_pos (by omega)]
  fits := by
    intro input room c hc
    cases h : ahead? input with
    | none => simp [call_decoder_none h] at hc
    | some found =>
      rw [call_decoder h] at hc
      by_cases hfits : found.1.length ≤ room
      · rw [if_pos hfits, Option.some.injEq] at hc
        exact hc ▸ hfits
      · rw [if_neg hfits, Option.some.injEq] at hc
        subst hc
        simp
  finite := by
    intro input
    cases h : ahead? input with
    | none => exact ⟨0, fun c hc => by simp [call_decoder_none h] at hc⟩
    | some found => exact ⟨found.1.length, (settled_decoder_iff h _).mpr le_rfl⟩

end Zlib

namespace Decoder

/-! ### The loop as it is used -/

/-- With a decoder that is told that its first call is its last one, the loop is over within two
turns; it gives the content of bytes that are one whole stream if that fits the first buffer, and
nothing else, however the buffer grows. With the capacities in use this is what becomes of a token.
With the same decoder left to go on where it stopped, the loop is over as well, and it gives the
content of all streams, whatever the capacities. -/
theorem first_buffer_decides (d : Decoder) (hz : d.ReadsStreams) :
    (∀ capacity bytes turns, 2 ≤ turns →
      d.once.inflate capacity turns bytes =
        some ((Zlib.decompress? bytes).filter fun content => content.length ≤ capacity 0)) ∧
    (∀ bytes turns, 2 ≤ turns →
      d.once.inflate (doubling bytes.length) turns bytes = some (Zlib.expand? bytes)) ∧
    (d.Resumes → ∀ capacity, StrictMono capacity → ∀ bytes, ∃ n, ∀ turns, n ≤ turns →
      d.inflate capacity turns bytes = some (Zlib.decompress? bytes)) := by
  have honce : ∀ capacity bytes turns, 2 ≤ turns →
      d.once.inflate capacity turns bytes =
        some ((Zlib.decompress? bytes).filter fun content => content.length ≤ capacity 0) := by
    intro capacity bytes turns ht
    rw [inflate_once d capacity bytes ht, hz]
  refine ⟨honce, fun bytes turns ht => ?_, fun h capacity hc bytes => ?_⟩
  · have hfirst : doubling bytes.length 0 = Zlib.room bytes.length := by simp [doubling]
    rw [honce _ bytes turns ht, hfirst, Zlib.expand?]
  · exact inflate_eq_decompress? h hz hc bytes

/-- A stream that holds a line of 129 percent signs, which is one more than two buffers' worth. -/
def commentStream : List UInt8 :=
  [0x78, 0x9C, 0x53, 0x55, 0x1D, 0x60, 0x00, 0x00, 0xBC, 0xA2, 0x12, 0xA6]

theorem decompress?_commentStream :
    Zlib.decompress? commentStream = some (List.replicate 129 0x25) := by
  decide +kernel

/-- The line gets lost, comes back if the first buffer is large enough, and comes back anyway if the
decoder goes on. -/
theorem commentStream_first_buffer :
    Zlib.decoder.ReadsStreams ∧ Zlib.decoder.Resumes ∧ StrictMono (doubling 12) ∧
    Zlib.decoder.once.inflate (doubling 12) 2 commentStream = some (Zlib.expand? commentStream) ∧
    Zlib.decoder.once.inflate (129 + ·) 2 commentStream =
      some (some (List.replicate 129 0x25)) ∧
    ∃ n, ∀ turns, n ≤ turns → Zlib.decoder.inflate (doubling 12) turns commentStream =
      some (some (List.replicate 129 0x25)) := by
  obtain ⟨hcapacity, hused, hresumes⟩ := first_buffer_decides _ Zlib.readsStreams_decoder
  have hlarge := hcapacity (129 + ·) commentStream 2 le_rfl
  have hgoing := hresumes Zlib.resumes_decoder _ (strictMono_doubling 12) commentStream
  rw [decompress?_commentStream] at hlarge hgoing
  exact ⟨Zlib.readsStreams_decoder, Zlib.resumes_decoder, strictMono_doubling 12,
    hused commentStream 2 le_rfl, hlarge.trans (by simp [Option.filter]), hgoing⟩

/-- The stream is whole, and the loop gives nothing for it. -/
theorem commentStream_lost :
    Zlib.decompress? commentStream = some (List.replicate 129 0x25) ∧
    Zlib.decoder.once.inflate (doubling commentStream.length) 2 commentStream = some none ∧
    Zlib.expand? commentStream = none := by
  refine ⟨decompress?_commentStream, ?_, ?_⟩
  · rw [inflate_once _ _ _ le_rfl, Zlib.readsStreams_decoder, decompress?_commentStream]
    simp [Option.filter, doubling, Zlib.room, commentStream]
  · rw [Zlib.expand?_of_decompress? _ _ decompress?_commentStream, List.length_replicate]
    exact if_neg (by decide)

end Decoder

end DiagramDesk
