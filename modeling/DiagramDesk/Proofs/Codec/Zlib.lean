import DiagramDesk.Codec.Zlib
import DiagramDesk.Proofs.Codec.Bits

/-!
Bytes that are stored as they are make one whole stream, so there is a stream of
any bytes. Whether a stream is expanded depends on its content and its own
length only.
-/
namespace DiagramDesk

namespace Bits

/-- A number in two bytes, the low one first. -/
theorem ofNat_bytes (n : Nat) (h : n < 65536) :
    ofNat 8 (UInt8.ofNat n).toNat ++ ofNat 8 (UInt8.ofNat (n / 256)).toNat = ofNat 16 n := by
  have hlow : (UInt8.ofNat n).toNat = n % 256 := UInt8.toNat_ofNat'
  have hhigh : (UInt8.ofNat (n / 256)).toNat = n / 256 := by
    rw [UInt8.toNat_ofNat', Nat.mod_eq_of_lt (by omega)]
  rw [hlow, hhigh]
  simp only [ofNat, List.cons_append, List.nil_append, List.cons.injEq, and_true,
    Bool.beq_eq_decide_eq, decide_eq_decide]
  omega

end Bits

namespace Deflate

theorem readBytes?_ofBytes (bytes : List UInt8) (rest : List Bool) :
    readBytes? bytes.length (Bits.ofBytes bytes ++ rest) = some (bytes.map .literal, rest) := by
  induction bytes with
  | nil => rfl
  | cons b bytes ih =>
    have hread := Bits.read?_append 8 b.toNat (Bits.ofBytes bytes ++ rest) b.toNat_lt
    simp [readBytes?, Bits.ofBytes_cons, List.append_assoc, hread, ih]

end Deflate

namespace Zlib

open Deflate

@[simp] theorem length_checksum (bytes : List UInt8) : (checksum bytes).length = 4 := rfl

/-- A stream in three parts: its blocks are read, their pieces put together, and the checksum is
what stands behind them. -/
theorem decompress?_of_read {rest : List UInt8} {pieces : List Piece} {bits : List Bool}
    {content : Array UInt8} (hread : read? (Bits.ofBytes rest) = some (pieces, bits))
    (hpieces : Piece.resolve? #[] pieces = some content)
    (hsum : Bits.align bits = Bits.ofBytes (checksum content.toList)) :
    decompress? (0x78 :: 0x9C :: rest) = some content.toList := by
  have hheader : isHeader 0x78 0x9C = true := by decide
  simp [decompress?, hheader, hread, hpieces, hsum]

/-! ### Bytes as they are -/

/-- A block of bytes as they are: its mark, then two lengths and the bytes. -/
theorem ofBytes_storedBlock (last : Bool) (bytes : List UInt8) (h : bytes.length ≤ mostStored) :
    Bits.ofBytes (storedBlock last bytes) =
      Bits.ofNat 8 last.toNat ++ (Bits.ofNat 16 bytes.length ++
        (Bits.ofNat 16 (mostStored - bytes.length) ++ Bits.ofBytes bytes)) := by
  have hlength := Bits.ofNat_bytes bytes.length (by simp only [mostStored] at h; omega)
  have hrest := Bits.ofNat_bytes (mostStored - bytes.length) (by simp only [mostStored]; omega)
  rw [← hlength, ← hrest]
  cases last <;> simp [storedBlock, Bits.ofBytes_cons, List.append_assoc]

/-- A block is read up to the bytes behind it. -/
theorem readBlocks?_storedBlock (last : Bool) (bytes more : List UInt8)
    (h : bytes.length ≤ mostStored) (fuel : Nat) :
    readBlocks? (fuel + 1) (Bits.ofBytes (storedBlock last bytes) ++ Bits.ofBytes more) =
      if last then some (bytes.map .literal, Bits.ofBytes more)
      else (readBlocks? fuel (Bits.ofBytes more)).map fun (pieces, bits) =>
        (bytes.map .literal ++ pieces, bits) := by
  let body := Bits.ofNat 16 bytes.length ++ (Bits.ofNat 16 (mostStored - bytes.length) ++
    (Bits.ofBytes bytes ++ Bits.ofBytes more))
  obtain ⟨tail, htail⟩ : ∃ tail, tail = List.replicate 5 false ++ body := ⟨_, rfl⟩
  have hbits : Bits.ofBytes (storedBlock last bytes) ++ Bits.ofBytes more =
      last :: false :: false :: tail := by
    rw [ofBytes_storedBlock last bytes h, htail]
    cases last <;> simp [body, List.append_assoc] <;> rfl
  have hmark : Bits.read? 1 (last :: false :: false :: tail) =
      some (last.toNat, false :: false :: tail) := by
    cases last <;> rfl
  have hform : Bits.read? 2 (false :: false :: tail) = some (0, tail) := rfl
  have halign : Bits.align tail = body := by
    have hwhole : body.length % 8 = 0 := by
      simp only [body, List.length_append, Bits.length_ofNat, Bits.length_ofBytes]
      omega
    rw [htail, Bits.align_more hwhole]
    rfl
  have hlength := Bits.read?_append 16 bytes.length
    (Bits.ofNat 16 (mostStored - bytes.length) ++ (Bits.ofBytes bytes ++ Bits.ofBytes more))
    (by simp only [mostStored] at h; omega)
  have hrest := Bits.read?_append 16 (mostStored - bytes.length)
    (Bits.ofBytes bytes ++ Bits.ofBytes more) (by simp only [mostStored]; omega)
  have hblock : readBlock? 0 tail = some (bytes.map .literal, Bits.ofBytes more) := by
    have hsum : bytes.length + (mostStored - bytes.length) = 65535 := by
      simp only [mostStored] at h ⊢
      omega
    simp [readBlock?, readStored?, halign, body, hlength, hrest, hsum, readBytes?_ofBytes]
  rw [hbits, readBlocks?]
  cases last with
  | true => simp [hmark, hform, hblock]
  | false =>
    cases hmore : readBlocks? fuel (Bits.ofBytes more) <;> simp [hmark, hform, hblock, hmore]

/-- Stored blocks are read up to the bytes behind them. -/
theorem readBlocks?_storedBlocks (bytes more : List UInt8) (fuel : Nat)
    (hfuel : bytes.length < fuel) :
    readBlocks? fuel (Bits.ofBytes (storedBlocks bytes ++ more)) =
      some (bytes.map .literal, Bits.ofBytes more) := by
  induction bytes using storedBlocks.induct generalizing fuel with
  | case1 bytes h =>
    obtain ⟨k, rfl⟩ : ∃ k, fuel = k + 1 := ⟨fuel - 1, by omega⟩
    rw [storedBlocks, if_pos h, Bits.ofBytes_append, readBlocks?_storedBlock true bytes more h]
    rfl
  | case2 bytes h ih =>
    obtain ⟨k, rfl⟩ : ∃ k, fuel = k + 1 := ⟨fuel - 1, by omega⟩
    have hpos : 0 < mostStored := by decide
    have hfirst : (bytes.take mostStored).length ≤ mostStored := List.length_take_le ..
    have hfuel' : (bytes.drop mostStored).length < k := by
      rw [List.length_drop]
      omega
    rw [storedBlocks, if_neg h, List.append_assoc, Bits.ofBytes_append,
      readBlocks?_storedBlock false _ _ hfirst, ih k hfuel']
    simp

theorem length_storedBlock (last : Bool) (bytes : List UInt8) :
    (storedBlock last bytes).length = bytes.length + 5 := by
  simp only [storedBlock, List.length_append, List.length_cons, List.length_nil]
  omega

/-- Marks and lengths of blocks add less than there is in them, but for those of the last one. -/
theorem length_storedBlocks_bounds (bytes : List UInt8) :
    bytes.length ≤ (storedBlocks bytes).length ∧
      (storedBlocks bytes).length ≤ 2 * bytes.length + 5 := by
  induction bytes using storedBlocks.induct with
  | case1 bytes h =>
    rw [storedBlocks, if_pos h, length_storedBlock]
    omega
  | case2 bytes h ih =>
    have hcut := congrArg List.length (List.take_append_drop mostStored bytes)
    have hfirst : (bytes.take mostStored).length = mostStored := by
      rw [List.length_take]
      omega
    rw [storedBlocks, if_neg h, List.length_append, length_storedBlock]
    rw [List.length_append] at hcut
    simp only [mostStored] at *
    omega

theorem length_stored_bounds (bytes : List UInt8) :
    bytes.length ≤ (stored bytes).length ∧ (stored bytes).length ≤ 2 * bytes.length + 11 := by
  have hblocks := length_storedBlocks_bounds bytes
  simp only [stored, header, List.length_append, length_checksum, List.length_cons,
    List.length_nil]
  omega

/-- Pieces that are single bytes are put together as they are. -/
theorem resolve?_literals (bytes : List UInt8) (out : Array UInt8) :
    Piece.resolve? out (bytes.map .literal) = some (out ++ bytes.toArray) := by
  induction bytes generalizing out with
  | nil => simp [Piece.resolve?]
  | cons b bytes ih =>
    rw [List.map_cons, Piece.resolve?, ih, Option.some.injEq]
    exact Array.ext' (by simp)

/-- Any bytes can be kept in a stream. -/
theorem decompress?_stored (bytes : List UInt8) : decompress? (stored bytes) = some bytes := by
  have hread : read? (Bits.ofBytes (storedBlocks bytes ++ checksum bytes)) =
      some (bytes.map .literal, Bits.ofBytes (checksum bytes)) := by
    have hlength := length_storedBlocks_bounds bytes
    refine readBlocks?_storedBlocks bytes _ _ ?_
    rw [Bits.length_ofBytes, List.length_append, length_checksum]
    omega
  have halign : Bits.align (Bits.ofBytes (checksum bytes)) = Bits.ofBytes (checksum bytes) := by
    simp [Bits.align]
  have hpieces := resolve?_literals bytes #[]
  rw [Array.empty_append] at hpieces
  rw [stored, header, List.append_assoc]
  exact decompress?_of_read hread hpieces halign

/-- What reads a whole stream and what reads a stream at the head find the same content in it. -/
theorem contentAhead?_of_decompress? {stream content : List UInt8}
    (h : decompress? stream = some content) : contentAhead? stream = some content := by
  match stream, h with
  | method :: flags :: rest, h =>
    rw [decompress?] at h
    rw [contentAhead?]
    split at h
    · next hheader =>
      cases hread : Deflate.read? (Bits.ofBytes rest) with
      | none => simp [hread] at h
      | some found =>
        cases hpieces : Piece.resolve? #[] found.1 with
        | none => simp [hread, hpieces] at h
        | some whole =>
          simp only [hread, hpieces, Option.bind_eq_bind, Option.bind_some] at h
          split at h <;> simp_all
    · simp at h

/-- A stream is expanded exactly if its content fits the room that its length gives. -/
theorem expand?_of_decompress? (stream content : List UInt8)
    (h : decompress? stream = some content) :
    expand? stream = if content.length ≤ room stream.length then some content else none := by
  simp [expand?, h, Option.filter]

namespace Compressor

variable (z : Compressor) (bytes : List UInt8)

theorem exists_compress_eq : ∃ rest, z.compress bytes = 0x78 :: 0x9C :: rest := by
  obtain ⟨rest, hrest⟩ := z.header_prefix bytes
  exact ⟨rest, hrest.symm⟩

theorem compress_ne_nil : z.compress bytes ≠ [] := by
  obtain ⟨rest, hrest⟩ := z.exists_compress_eq bytes
  simp [hrest]

end Compressor

end Zlib

end DiagramDesk
