import DiagramDesk.Proofs.Codec.Zlib

/-!
Streams tell where they end. Whatever is read from the head of some bits is read in the
same way when more whole bytes stand behind them, and these are left untouched. So
no stream goes on with more bytes to make another stream, and none is cut short.
-/
namespace DiagramDesk

namespace Bits

theorem split?_eq_some (n : Nat) (bits head rest : List Bool)
    (h : split? n bits = some (head, rest)) : bits = head ++ rest ∧ head.length = n := by
  induction n generalizing bits head with
  | zero =>
    simp only [split?, Option.some.injEq, Prod.mk.injEq] at h
    obtain ⟨rfl, rfl⟩ := h
    exact ⟨rfl, rfl⟩
  | succ n ih =>
    cases bits with
    | nil => simp [split?] at h
    | cons b bits =>
      simp only [split?, Option.map_eq_some_iff, Prod.exists, Prod.mk.injEq] at h
      obtain ⟨tail, rest', hs, rfl, rfl⟩ := h
      obtain ⟨rfl, rfl⟩ := ih bits tail hs
      exact ⟨rfl, rfl⟩

theorem read?_more {n v : Nat} {bits rest more : List Bool} (h : read? n bits = some (v, rest)) :
    read? n (bits ++ more) = some (v, rest ++ more) := by
  simp only [read?, Option.map_eq_some_iff, Prod.exists, Prod.mk.injEq] at h
  obtain ⟨head, rest', hs, rfl, rfl⟩ := h
  obtain ⟨rfl, rfl⟩ := split?_eq_some n bits head rest' hs
  rw [read?, List.append_assoc, split?_append]
  rfl

end Bits

theorem PrefixCode.read?_more {code : PrefixCode} {s : Nat} {bits rest more : List Bool}
    (h : code.read? bits = some (s, rest)) :
    code.read? (bits ++ more) = some (s, rest ++ more) := by
  induction code generalizing bits with
  | gap => simp [read?] at h
  | leaf t =>
    simp only [read?, Option.some.injEq, Prod.mk.injEq] at h ⊢
    exact ⟨h.1, by rw [h.2]⟩
  | node zero one ihz iho =>
    cases bits with
    | nil => simp [read?] at h
    | cons b bits =>
      cases b with
      | false => exact ihz h
      | true => exact iho h

namespace Deflate

section More

variable {more : List Bool}

/-! ### Pieces -/

theorem readBand?_more {bands : List Band} {i n : Nat} {bits rest : List Bool}
    (h : readBand? bands i bits = some (n, rest)) :
    readBand? bands i (bits ++ more) = some (n, rest ++ more) := by
  unfold readBand? at h ⊢
  cases hi : bands[i]? with
  | none => simp [hi] at h
  | some band =>
    simp only [hi, Option.map_eq_some_iff, Prod.exists, Prod.mk.injEq] at h
    obtain ⟨offset, rest', hr, rfl, rfl⟩ := h
    simp [Bits.read?_more hr]

theorem readCopy?_more {codes : Codes} {symbol : Nat} {bits rest : List Bool} {piece : Piece}
    (h : readCopy? codes symbol bits = some (piece, rest)) :
    readCopy? codes symbol (bits ++ more) = some (piece, rest ++ more) := by
  simp only [readCopy?, Option.bind_eq_bind, Option.bind_eq_some_iff, Prod.exists, Option.pure_def,
    Option.some.injEq, Prod.mk.injEq] at h
  obtain ⟨length, bits₁, hlength, place, bits₂, hplace, distance, bits₃, hdistance, rfl, rfl⟩ := h
  simp [readCopy?, readBand?_more hlength, PrefixCode.read?_more hplace, readBand?_more hdistance]

def readPiece? (codes : Codes) (symbol : Nat) (bits : List Bool) : Option (Piece × List Bool) :=
  if symbol < endOfBlock then some (.literal (UInt8.ofNat symbol), bits)
  else readCopy? codes symbol bits

theorem readPieces?_succ (codes : Codes) (fuel : Nat) (bits : List Bool) :
    readPieces? codes (fuel + 1) bits = (codes.symbols.read? bits).bind fun (symbol, bits) =>
      if symbol = endOfBlock then some ([], bits)
      else (readPiece? codes symbol bits).bind fun (piece, bits) =>
        (readPieces? codes fuel bits).bind fun (pieces, bits) => some (piece :: pieces, bits) := by
  rw [readPieces?]
  refine Option.bind_congr fun x _ => ?_
  by_cases hend : x.1 = endOfBlock
  · simp [hend]
  · by_cases hlit : x.1 < endOfBlock <;> simp [hend, readPiece?, hlit]

theorem readPiece?_more {codes : Codes} {symbol : Nat} {bits rest : List Bool} {piece : Piece}
    (h : readPiece? codes symbol bits = some (piece, rest)) :
    readPiece? codes symbol (bits ++ more) = some (piece, rest ++ more) := by
  unfold readPiece? at h ⊢
  by_cases hlit : symbol < endOfBlock
  · simp only [hlit, if_true, Option.some.injEq, Prod.mk.injEq] at h ⊢
    exact ⟨h.1, by rw [h.2]⟩
  · simp only [hlit, if_false] at h ⊢
    exact readCopy?_more h

/-- More bits may also raise the bound on the number of pieces. -/
theorem readPieces?_more {codes : Codes} {fuel fuel' : Nat} (hfuel : fuel ≤ fuel')
    {bits rest : List Bool} {pieces : List Piece}
    (h : readPieces? codes fuel bits = some (pieces, rest)) :
    readPieces? codes fuel' (bits ++ more) = some (pieces, rest ++ more) := by
  induction fuel generalizing fuel' bits pieces with
  | zero => simp [readPieces?] at h
  | succ fuel ih =>
    obtain ⟨k, rfl⟩ : ∃ k, fuel' = k + 1 := ⟨fuel' - 1, by omega⟩
    simp only [readPieces?_succ, Option.bind_eq_some_iff, Prod.exists] at h
    obtain ⟨symbol, bits₁, hsymbol, h⟩ := h
    by_cases hend : symbol = endOfBlock
    · simp only [hend, if_true, Option.some.injEq, Prod.mk.injEq] at h
      obtain ⟨rfl, rfl⟩ := h
      simp [readPieces?_succ, PrefixCode.read?_more hsymbol, hend]
    · simp only [hend, if_false, Option.bind_eq_some_iff, Prod.exists, Option.some.injEq,
        Prod.mk.injEq] at h
      obtain ⟨piece, bits₂, hpiece, tail, rest', htail, rfl, rfl⟩ := h
      have hk : fuel ≤ k := by omega
      simp [readPieces?_succ, PrefixCode.read?_more hsymbol, hend, readPiece?_more hpiece,
        ih hk htail]

theorem readBytes?_more {n : Nat} {bits rest : List Bool} {pieces : List Piece}
    (h : readBytes? n bits = some (pieces, rest)) :
    readBytes? n (bits ++ more) = some (pieces, rest ++ more) := by
  induction n generalizing bits pieces with
  | zero =>
    simp only [readBytes?, Option.some.injEq, Prod.mk.injEq] at h ⊢
    exact ⟨h.1, by rw [h.2]⟩
  | succ n ih =>
    simp only [readBytes?, Option.bind_eq_bind, Option.bind_eq_some_iff, Prod.exists,
      Option.pure_def, Option.some.injEq, Prod.mk.injEq] at h
    obtain ⟨byte, bits₁, hbyte, tail, rest', htail, rfl, rfl⟩ := h
    simp [readBytes?, Bits.read?_more hbyte, ih htail]

theorem readStored?_more (hmore : more.length % 8 = 0) {bits rest : List Bool}
    {pieces : List Piece} (h : readStored? bits = some (pieces, rest)) :
    readStored? (bits ++ more) = some (pieces, rest ++ more) := by
  simp only [readStored?, Option.bind_eq_bind, Option.bind_eq_some_iff, Prod.exists] at h
  obtain ⟨length, bits₁, hlength, complement, bits₂, hcomplement, h⟩ := h
  by_cases hsum : length + complement = 65535
  · simp only [hsum, if_true] at h
    simp [readStored?, Bits.align_more hmore, Bits.read?_more hlength, Bits.read?_more hcomplement,
      hsum, readBytes?_more h]
  · simp [hsum] at h

/-! ### Codes -/

theorem readTriples?_more {n : Nat} {bits rest : List Bool} {vs : List Nat}
    (h : readTriples? n bits = some (vs, rest)) :
    readTriples? n (bits ++ more) = some (vs, rest ++ more) := by
  induction n generalizing bits vs with
  | zero =>
    simp only [readTriples?, Option.some.injEq, Prod.mk.injEq] at h ⊢
    exact ⟨h.1, by rw [h.2]⟩
  | succ n ih =>
    simp only [readTriples?, Option.bind_eq_bind, Option.bind_eq_some_iff, Prod.exists,
      Option.pure_def, Option.some.injEq, Prod.mk.injEq] at h
    obtain ⟨v, bits₁, hv, tail, rest', htail, rfl, rfl⟩ := h
    simp [readTriples?, Bits.read?_more hv, ih htail]

/-- What a symbol of the code for lengths stands for: a length, and how many more of it follow. -/
def run? (last : Option Nat) (symbol : Nat) (bits : List Bool) :
    Option (Nat × Nat × List Bool) :=
  if symbol < 16 then some (symbol, 0, bits)
  else if symbol = 16 then
    match last with
    | none => none
    | some l => (Bits.read? 2 bits).map fun (k, bits) => (l, k + 2, bits)
  else if symbol = 17 then (Bits.read? 3 bits).map fun (k, bits) => (0, k + 2, bits)
  else (Bits.read? 7 bits).map fun (k, bits) => (0, k + 10, bits)

theorem readLengths?_symbol (code : PrefixCode) (n : Nat) (last : Option Nat) (bits : List Bool) :
    readLengths? code (n + 1) last 0 bits = (code.read? bits).bind fun (symbol, bits) =>
      (run? last symbol bits).bind fun (length, pending, bits) =>
        (readLengths? code n (some length) pending bits).bind fun (ls, bits) =>
          some (length :: ls, bits) := by
  rw [readLengths?]
  refine Option.bind_congr fun x _ => ?_
  by_cases hplain : x.1 < 16
  · simp [run?, hplain]
  · by_cases hagain : x.1 = 16
    · cases last <;> simp [run?, hagain]
    · by_cases hshort : x.1 = 17 <;> simp [run?, hplain, hagain, hshort]

theorem run?_more {last : Option Nat} {symbol length pending : Nat} {bits rest : List Bool}
    (h : run? last symbol bits = some (length, pending, rest)) :
    run? last symbol (bits ++ more) = some (length, pending, rest ++ more) := by
  have hread : ∀ {w extra l : Nat},
      (Bits.read? w bits).map (fun x => (l, x.1 + extra, x.2)) = some (length, pending, rest) →
      (Bits.read? w (bits ++ more)).map (fun x => (l, x.1 + extra, x.2)) =
        some (length, pending, rest ++ more) := by
    intro w extra l hw
    simp only [Option.map_eq_some_iff, Prod.exists, Prod.mk.injEq] at hw
    obtain ⟨k, rest', hk, rfl, rfl, rfl⟩ := hw
    simp [Bits.read?_more hk]
  unfold run? at h ⊢
  by_cases hplain : symbol < 16
  · simp only [hplain, if_true, Option.some.injEq, Prod.mk.injEq] at h ⊢
    exact ⟨h.1, h.2.1, by rw [h.2.2]⟩
  · simp only [hplain, if_false] at h ⊢
    by_cases hagain : symbol = 16
    · simp only [hagain, if_true] at h ⊢
      cases last with
      | none => simp at h
      | some l => exact hread h
    · simp only [hagain, if_false] at h ⊢
      by_cases hshort : symbol = 17
      · simp only [hshort, if_true] at h ⊢
        exact hread h
      · simp only [hshort, if_false] at h ⊢
        exact hread h

theorem readLengths?_more {code : PrefixCode} {n pending : Nat} {last : Option Nat}
    {bits rest : List Bool} {ls : List Nat}
    (h : readLengths? code n last pending bits = some (ls, rest)) :
    readLengths? code n last pending (bits ++ more) = some (ls, rest ++ more) := by
  induction n generalizing last pending bits ls with
  | zero =>
    by_cases hp : pending = 0
    · simp only [readLengths?, hp, if_true, Option.some.injEq, Prod.mk.injEq] at h ⊢
      exact ⟨h.1, by rw [h.2]⟩
    · simp [readLengths?, hp] at h
  | succ n ih =>
    cases pending with
    | succ pending =>
      simp only [readLengths?, Option.bind_eq_bind, Option.bind_eq_some_iff, Prod.exists,
        Option.pure_def, Option.some.injEq, Prod.mk.injEq] at h
      obtain ⟨tail, rest', htail, rfl, rfl⟩ := h
      simp [readLengths?, ih htail]
    | zero =>
      simp only [readLengths?_symbol, Option.bind_eq_some_iff, Prod.exists, Option.some.injEq,
        Prod.mk.injEq] at h
      obtain ⟨symbol, bits₁, hsymbol, length, again, bits₂, hrun, tail, rest', htail, rfl, rfl⟩ := h
      simp [readLengths?_symbol, PrefixCode.read?_more hsymbol, run?_more hrun, ih htail]

/-- The word lengths of the code for lengths, by symbol. -/
def givenLengths (triples : List Nat) : List Nat :=
  (List.range 19).map fun s => (((lengthOrder.zip triples).find? (·.1 = s)).map (·.2)).getD 0

/-- The two codes behind the word lengths of the code for lengths. -/
def readBoth? (lengths : List Nat) (symbols distances : Nat) (bits : List Bool) :
    Option (Codes × List Bool) :=
  (readLengths? (PrefixCode.ofLengths lengths) (symbols + 257 + (distances + 1)) none 0 bits).bind
    fun (all, bits) =>
      (PrefixCode.ofLengths? (all.take (symbols + 257))).bind fun symbolCode =>
        (PrefixCode.ofLengths? (all.drop (symbols + 257))).bind fun distanceCode =>
          some (⟨symbolCode, distanceCode⟩, bits)

theorem readCodes?_eq (bits : List Bool) :
    readCodes? bits = (Bits.read? 5 bits).bind fun (symbols, bits) =>
      (Bits.read? 5 bits).bind fun (distances, bits) =>
        (Bits.read? 4 bits).bind fun (given, bits) =>
          (readTriples? (given + 4) bits).bind fun (triples, bits) =>
            if symbols + 257 ≤ 286 ∧ distances + 1 ≤ 30 then
              if PrefixCode.full (givenLengths triples) then
                readBoth? (givenLengths triples) symbols distances bits
              else none
            else none := rfl

theorem readBoth?_more {lengths : List Nat} {symbols distances : Nat} {bits rest : List Bool}
    {codes : Codes} (h : readBoth? lengths symbols distances bits = some (codes, rest)) :
    readBoth? lengths symbols distances (bits ++ more) = some (codes, rest ++ more) := by
  simp only [readBoth?, Option.bind_eq_some_iff, Prod.exists, Option.some.injEq,
    Prod.mk.injEq] at h
  obtain ⟨all, bits₁, hall, symbolCode, hsymbolCode, distanceCode, hdistanceCode, rfl, rfl⟩ := h
  simp [readBoth?, readLengths?_more hall, hsymbolCode, hdistanceCode]

theorem readCodes?_more {bits rest : List Bool} {codes : Codes}
    (h : readCodes? bits = some (codes, rest)) :
    readCodes? (bits ++ more) = some (codes, rest ++ more) := by
  simp only [readCodes?_eq, Option.bind_eq_some_iff, Prod.exists] at h
  obtain ⟨symbols, bits₁, hsymbols, distances, bits₂, hdistances, given, bits₃, hgiven, triples,
    bits₄, htriples, h⟩ := h
  simp only [readCodes?_eq, Bits.read?_more hsymbols, Bits.read?_more hdistances,
    Bits.read?_more hgiven, readTriples?_more htriples, Option.bind_some]
  by_cases hbounds : symbols + 257 ≤ 286 ∧ distances + 1 ≤ 30
  · rw [if_pos hbounds] at h ⊢
    by_cases hfull : PrefixCode.full (givenLengths triples) = true
    · rw [if_pos hfull] at h ⊢
      exact readBoth?_more h
    · simp [hfull] at h
  · rw [if_neg hbounds] at h
    exact absurd h (by simp)

/-! ### Blocks -/

theorem readBlock?_more (hmore : more.length % 8 = 0) {form : Nat} {bits rest : List Bool}
    {pieces : List Piece} (h : readBlock? form bits = some (pieces, rest)) :
    readBlock? form (bits ++ more) = some (pieces, rest ++ more) := by
  match form, h with
  | 0, h => exact readStored?_more hmore h
  | 1, h => exact readPieces?_more (by simp) h
  | 2, h =>
    simp only [readBlock?, Option.bind_eq_bind, Option.bind_eq_some_iff, Prod.exists] at h
    obtain ⟨codes, bits₁, hcodes, h⟩ := h
    simp only [readBlock?, Option.bind_eq_bind, readCodes?_more hcodes, Option.bind_some]
    exact readPieces?_more (by simp) h
  | _ + 3, h => simp [readBlock?] at h

theorem readBlocks?_more (hmore : more.length % 8 = 0) {fuel fuel' : Nat} (hfuel : fuel ≤ fuel')
    {bits rest : List Bool} {pieces : List Piece}
    (h : readBlocks? fuel bits = some (pieces, rest)) :
    readBlocks? fuel' (bits ++ more) = some (pieces, rest ++ more) := by
  induction fuel generalizing fuel' bits pieces with
  | zero => simp [readBlocks?] at h
  | succ fuel ih =>
    obtain ⟨k, rfl⟩ : ∃ k, fuel' = k + 1 := ⟨fuel' - 1, by omega⟩
    simp only [readBlocks?, Option.bind_eq_bind, Option.bind_eq_some_iff, Prod.exists] at h
    obtain ⟨last, bits₁, hlast, form, bits₂, hform, first, bits₃, hfirst, h⟩ := h
    simp only [readBlocks?, Option.bind_eq_bind, Bits.read?_more hlast, Bits.read?_more hform,
      readBlock?_more hmore hfirst, Option.bind_some]
    by_cases hend : last = 1
    · simp only [hend, if_true, Option.pure_def, Option.some.injEq, Prod.mk.injEq] at h ⊢
      exact ⟨h.1, by rw [h.2]⟩
    · simp only [hend, if_false, Option.bind_eq_some_iff, Prod.exists, Option.pure_def,
        Option.some.injEq, Prod.mk.injEq] at h
      obtain ⟨others, rest', hothers, rfl, rfl⟩ := h
      have hk : fuel ≤ k := by omega
      simp [hend, ih hk hothers]

/-- Blocks are read up to the last one, whatever whole bytes stand behind it. -/
theorem read?_more (hmore : more.length % 8 = 0) {bits rest : List Bool} {pieces : List Piece}
    (h : read? bits = some (pieces, rest)) : read? (bits ++ more) = some (pieces, rest ++ more) :=
  readBlocks?_more hmore (by simp) h

end More

end Deflate

namespace Zlib

/-- A stream with bytes behind it is no stream. -/
theorem decompress?_append (stream content more : List UInt8)
    (h : decompress? stream = some content) (hmore : more ≠ []) :
    decompress? (stream ++ more) = none := by
  match stream, h with
  | method :: flags :: rest, h =>
    simp only [decompress?] at h
    split at h
    · rename_i hheader
      simp only [Option.bind_eq_bind, Option.bind_eq_some_iff, Prod.exists] at h
      obtain ⟨pieces, bits, hread, out, hout, h⟩ := h
      by_cases hsum : Bits.align bits = Bits.ofBytes (checksum out.toList)
      · have hwhole : (Bits.ofBytes more).length % 8 = 0 := by simp
        have hread' := Deflate.read?_more hwhole hread
        rw [← Bits.ofBytes_append] at hread'
        have hne : Bits.align (bits ++ Bits.ofBytes more) ≠ Bits.ofBytes (checksum out.toList) := by
          rw [Bits.align_more hwhole, hsum, ← Bits.ofBytes_append]
          intro he
          have hlength := congrArg List.length he
          simp only [Bits.length_ofBytes, List.length_append, length_checksum] at hlength
          exact hmore (List.length_eq_zero_iff.mp (by omega))
        simp [decompress?, hheader, hread', hout, hne]
      · simp [hsum] at h
    · simp at h

/-- A stream that is cut short is no stream. -/
theorem decompress?_of_append (stream content more : List UInt8)
    (h : decompress? (stream ++ more) = some content) (hmore : more ≠ []) :
    decompress? stream = none := by
  cases hs : decompress? stream with
  | none => rfl
  | some other =>
    simp [decompress?_append stream other more hs hmore] at h

end Zlib

end DiagramDesk
