import DiagramDesk.Proofs.Share.Mangled

/-!
What reading accepts. The normal form of a token must be the one spelling of some bytes; these
bytes are unpacked if they are a stream with room for its content, and what comes out must
be text. Each way to fail has its own fault, and no two normal forms carry the same bytes.
-/
namespace DiagramDesk.Token

open Text

/-! ### Symbols -/

theorem base64_decode_iff (symbols : List Char) (bytes : List UInt8) :
    Base64.decode .urlSafe (utf8 symbols) = .ok bytes ↔
      symbols = Base64.encode .urlSafe bytes := by
  rw [Base64.decode_eq_ok_iff]
  exact ⟨utf8_injective, congrArg utf8⟩

theorem encode_injective {left right : List UInt8}
    (h : Base64.encode .urlSafe left = Base64.encode .urlSafe right) : left = right := by
  have hread := (base64_decode_iff _ right).mpr h
  rw [(base64_decode_iff _ left).mpr rfl, Except.ok.injEq] at hread
  exact hread

theorem base64_refused_iff (symbols : List Char) :
    (∃ fault, Base64.decode .urlSafe (utf8 symbols) = .error fault) ↔
      ∀ bytes, symbols ≠ Base64.encode .urlSafe bytes := by
  cases h : Base64.decode .urlSafe (utf8 symbols) with
  | error fault =>
    refine iff_of_true ⟨fault, rfl⟩ fun bytes he => ?_
    rw [(base64_decode_iff symbols bytes).mpr he] at h
    cases h
  | ok bytes =>
    refine iff_of_false (by rintro ⟨fault, hf⟩; cases hf) fun hnone => ?_
    exact hnone bytes ((base64_decode_iff symbols bytes).mp h)

/-- Symbols that spell values with leftover bits. -/
def LeavesBits (symbols : List Char) : Prop :=
  ∃ vs : List Nat, (∀ v ∈ vs, v < 64) ∧ vs.map (Base64.symbol .urlSafe) = symbols ∧
    Base64.zeroRest vs = false

/-- Symbols spell no bytes for one of three reasons: one of them is foreign, the last stands alone,
or bits are left over. -/
theorem not_encode_iff (symbols : List Char) :
    (∀ bytes, symbols ≠ Base64.encode .urlSafe bytes) ↔
      (∃ c ∈ symbols, isLinkSymbol c = false) ∨ symbols.length % 4 = 1 ∨ LeavesBits symbols := by
  constructor
  · intro hnone
    by_cases hforeign : ∃ c ∈ symbols, isLinkSymbol c = false
    · exact .inl hforeign
    push Not at hforeign
    obtain ⟨vs, hlt, rfl⟩ := exists_symbols symbols (by simpa using hforeign)
    by_cases hlength : vs.length % 4 = 1
    · exact .inr (.inl (by rwa [List.length_map]))
    refine .inr (.inr ⟨vs, hlt, rfl, ?_⟩)
    rw [Bool.eq_false_iff]
    intro hrest
    refine hnone (Base64.octets vs) ?_
    rw [Base64.encode, Base64.sextets_octets vs hlt hlength hrest]
  · rintro (⟨c, hc, hforeign⟩ | hlength | ⟨vs, hlt, hspelled, hrest⟩) bytes he
    · rw [he] at hc
      rw [isLinkSymbol_of_mem_encode bytes c hc] at hforeign
      exact Bool.noConfusion hforeign
    · rw [he, Base64.encode, List.length_map] at hlength
      exact Base64.length_sextets_mod bytes hlength
    · have hread := (base64_decode_iff symbols bytes).mpr he
      rw [← hspelled, Base64.decode_symbols .urlSafe vs hlt, hrest] at hread
      split at hread <;> cases hread

/-! ### Bytes -/

/-- What the bytes of a token stand for: the content of a stream that has room for it, or else
the bytes themselves. -/
def unpacked (bytes : List UInt8) : List UInt8 :=
  match Zlib.decompress? bytes with
  | some content => if content.length ≤ Zlib.room bytes.length then content else bytes
  | none => bytes

theorem getD_expand? (bytes : List UInt8) : (Zlib.expand? bytes).getD bytes = unpacked bytes := by
  rw [unpacked]
  cases h : Zlib.decompress? bytes with
  | none => rw [Zlib.expand?, h, Option.filter_none, Option.getD_none]
  | some content =>
    rw [Zlib.expand?_of_decompress? bytes content h]
    dsimp only
    split <;> rfl

/-! ### Results -/

/-- The result of reading a token, by its normal form: one rule for every fault and one for text. -/
inductive Reads (token : List Char) : Except Fault String → Prop
  | empty : normalize token = [] → Reads token (.error .empty)
  | foreign (fault : Base64.Fault) : normalize token ≠ [] →
      (∀ bytes, normalize token ≠ Base64.encode .urlSafe bytes) →
      Reads token (.error (.base64 fault))
  | text (bytes : List UInt8) (source : String) : normalize token ≠ [] →
      normalize token = Base64.encode .urlSafe bytes →
      unpacked bytes = utf8 source.toList → Reads token (.ok source)
  | noise (bytes : List UInt8) (fault : Utf8Fault) : normalize token ≠ [] →
      normalize token = Base64.encode .urlSafe bytes →
      (∀ source : String, unpacked bytes ≠ utf8 source.toList) →
      Reads token (.error (.utf8 fault))

/-- Every token is read by one of the rules. -/
theorem decode_reads (token : String) : Reads token.toList (decode token) := by
  by_cases hempty : normalize token.toList = []
  · have hdecode : decode token = .error .empty := by simp [decode, payload, hempty]
    exact hdecode ▸ .empty hempty
  cases hread : Base64.decode .urlSafe (utf8 (normalize token.toList)) with
  | error fault =>
    have hdecode : decode token = .error (.base64 fault) := by
      simp [decode, payload, hempty, hread]
    exact hdecode ▸ .foreign fault hempty ((base64_refused_iff _).mp ⟨fault, hread⟩)
  | ok bytes =>
    have hspelled := (base64_decode_iff _ bytes).mp hread
    have hpayload : payload token.toList = .ok (unpacked bytes) := by
      simp [payload, hempty, hread, getD_expand?]
    cases htext : ofUtf8? (unpacked bytes) with
    | some source =>
      have hdecode : decode token = .ok source := by simp [decode, hpayload, htext]
      exact hdecode ▸ .text bytes source hempty hspelled ((ofUtf8?_eq_some_iff _ source).mp htext)
    | none =>
      have hnoise : ∀ source : String, unpacked bytes ≠ utf8 source.toList := by
        intro source hsource
        rw [(ofUtf8?_eq_some_iff _ source).mpr hsource] at htext
        cases htext
      rw [decode, hpayload]
      simp only [htext]
      exact .noise bytes _ hempty hspelled hnoise

namespace Reads

variable {token : List Char} {result : Except Fault String} (h : Reads token result)

include h

theorem empty_iff : result = .error .empty ↔ normalize token = [] := by
  cases h <;> simp_all

variable (hne : normalize token ≠ [])

include hne

theorem foreign_iff :
    (∃ fault, result = .error (.base64 fault)) ↔
      ∀ bytes, normalize token ≠ Base64.encode .urlSafe bytes := by
  cases h <;> simp_all

variable {bytes : List UInt8} (hspelled : normalize token = Base64.encode .urlSafe bytes)

include hspelled

/-- Of a token that spells bytes there is either the text of these bytes or none. -/
theorem text_or_noise :
    (∃ source, result = .ok source ∧ unpacked bytes = utf8 source.toList) ∨
      ∃ fault, result = .error (.utf8 fault) ∧
        ∀ source : String, unpacked bytes ≠ utf8 source.toList := by
  cases h with
  | empty hempty => exact absurd hempty hne
  | foreign fault _ hforeign => exact absurd hspelled (hforeign bytes)
  | text bytes' source _ hspelled' hsource =>
    obtain rfl := encode_injective (hspelled.symm.trans hspelled')
    exact .inl ⟨source, rfl, hsource⟩
  | noise bytes' fault _ hspelled' hnoise =>
    obtain rfl := encode_injective (hspelled.symm.trans hspelled')
    exact .inr ⟨fault, rfl, hnoise⟩

theorem text_iff (source : String) :
    result = .ok source ↔ unpacked bytes = utf8 source.toList := by
  obtain ⟨text, rfl, htext⟩ | ⟨fault, rfl, hnoise⟩ := h.text_or_noise hne hspelled
  · rw [htext, Except.ok.injEq]
    exact ⟨fun he => he ▸ rfl, fun he => String.toList_inj.mp (utf8_injective he)⟩
  · simpa using hnoise source

theorem noise_iff :
    (∃ fault, result = .error (.utf8 fault)) ↔
      ∀ source : String, unpacked bytes ≠ utf8 source.toList := by
  obtain ⟨text, rfl, htext⟩ | ⟨fault, rfl, hnoise⟩ := h.text_or_noise hne hspelled
  · simpa using ⟨text, htext⟩
  · exact iff_of_true ⟨fault, rfl⟩ hnoise

end Reads

/-- Reading accepts exactly its format. A token that is empty in its normal form is refused as
empty; else it is refused as no base64 exactly if that form is not the one spelling of some bytes,
which has three reasons; else it gives the text that is unpacked from these bytes, or is refused as
no text if there is none. No two normal forms carry the same bytes. -/
theorem reading_accepts_format (token : String) :
    (decode token = .error .empty ↔ normalize token.toList = []) ∧
    (normalize token.toList ≠ [] →
      ((∃ fault, decode token = .error (.base64 fault)) ↔
        ∀ bytes, normalize token.toList ≠ Base64.encode .urlSafe bytes) ∧
      ∀ bytes, normalize token.toList = Base64.encode .urlSafe bytes →
        (∀ source, decode token = .ok source ↔ unpacked bytes = utf8 source.toList) ∧
        ((∃ fault, decode token = .error (.utf8 fault)) ↔
          ∀ source : String, unpacked bytes ≠ utf8 source.toList)) ∧
    ((∀ bytes, normalize token.toList ≠ Base64.encode .urlSafe bytes) ↔
      (∃ c ∈ normalize token.toList, isLinkSymbol c = false) ∨
        (normalize token.toList).length % 4 = 1 ∨ LeavesBits (normalize token.toList)) ∧
    ∀ (other : String) (bytes : List UInt8),
      Base64.decode .urlSafe (utf8 (normalize token.toList)) = .ok bytes →
      Base64.decode .urlSafe (utf8 (normalize other.toList)) = .ok bytes →
      normalize token.toList = normalize other.toList := by
  have hreads := decode_reads token
  refine ⟨hreads.empty_iff, fun hne => ⟨hreads.foreign_iff hne, fun bytes hspelled => ?_⟩,
    not_encode_iff _, fun other bytes htoken hother => ?_⟩
  · exact ⟨hreads.text_iff hne hspelled, hreads.noise_iff hne hspelled⟩
  · rw [(base64_decode_iff _ bytes).mp htoken, (base64_decode_iff _ bytes).mp hother]

/-- A stream, a foreign symbol, bytes that are no text, and two spellings of the same token. -/
theorem flowchartStream_read :
    decode "eJxLL0osyFAIceFy1NW1cwIAIfwD8A" = .ok "graph TD\nA-->B" ∧
    (∃ fault, decode "!!!" = .error (.base64 fault)) ∧
    (∃ fault, decode "__79" = .error (.utf8 fault)) ∧
    normalize "fn5+Pj4+".toList = normalize "fn5 Pj4-\n=".toList := by
  have hflowchart : normalize "eJxLL0osyFAIceFy1NW1cwIAIfwD8A".toList =
      Base64.encode .urlSafe flowchartStream := by decide +kernel
  have hnoise : normalize "__79".toList = Base64.encode .urlSafe [0xFF, 0xFE, 0xFD] := by
    decide +kernel
  refine ⟨?_, ?_, ?_, ?_⟩
  · have hread := (reading_accepts_format "eJxLL0osyFAIceFy1NW1cwIAIfwD8A").2.1 (by decide)
    exact ((hread.2 flowchartStream hflowchart).1 "graph TD\nA-->B").mpr (by decide +kernel)
  · have hread := reading_accepts_format "!!!"
    exact (hread.2.1 (by decide)).1.mpr (hread.2.2.1.mpr (.inl ⟨'!', by decide, by decide⟩))
  · have hread := (reading_accepts_format "__79").2.1 (by decide)
    refine ((hread.2 _ hnoise).2).mpr fun source hsource => ?_
    have hself : unpacked [0xFF, 0xFE, 0xFD] = [0xFF, 0xFE, 0xFD] := by decide +kernel
    rw [hself] at hsource
    have htext := (ofUtf8?_eq_some_iff _ source).mpr hsource
    rw [ofUtf8?_continuation 0xFF _ (by decide)] at htext
    cases htext
  · exact (reading_accepts_format "fn5+Pj4+").2.2.2 "fn5 Pj4-\n=" [126, 126, 126, 62, 62, 62]
      (by decide +kernel) (by decide +kernel)

/-- A complete stream of sixty-five times the same letter, from elsewhere. -/
def lettersStream : List UInt8 :=
  [0x78, 0x9C, 0xAB, 0xA8, 0xA0, 0x10, 0x00, 0x00, 0xED, 0xE6, 0x1E, 0x79]

/-- The token of this stream is refused as no text, although the content of the stream is text. -/
theorem letters_not_unpacked :
    normalize "eJyrqKAQAADt5h55".toList = Base64.encode .urlSafe lettersStream ∧
    Zlib.decompress? lettersStream = some (utf8 (List.replicate 65 'x')) ∧
    decode "eJyrqKAQAADt5h55" = .error (.utf8 ⟨1, some 1⟩) := by
  have hspelled : normalize "eJyrqKAQAADt5h55".toList = Base64.encode .urlSafe lettersStream := by
    decide +kernel
  have hread : payload "eJyrqKAQAADt5h55".toList = .ok lettersStream := by decide +kernel
  refine ⟨hspelled, by decide +kernel, ?_⟩
  rw [decode, hread]
  simp [lettersStream, ofUtf8?_header, utf8Fault?_header]

end DiagramDesk.Token
