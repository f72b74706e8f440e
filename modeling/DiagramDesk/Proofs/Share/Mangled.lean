import DiagramDesk.Proofs.Codec.SelfDelimiting
import DiagramDesk.Proofs.Share.Token

/-!
Tokens that were damaged on their way. A token of a compressed source that is cut short,
or goes on with further symbols of links, is refused: its bytes are no stream any
more, and since they begin with the header of one, they are no text either.
-/
namespace DiagramDesk.Token

open Text

/-- Symbols cut short, or with further symbols of links behind them. -/
def Mangled (symbols token : List Char) : Prop :=
  (token <+: symbols ∧ token ≠ symbols) ∨
    ∃ extra, extra ≠ [] ∧ (∀ c ∈ extra, isLinkSymbol c = true) ∧ token = symbols ++ extra

/-- Every symbol of links spells a value. -/
theorem exists_symbol (c : Char) (h : isLinkSymbol c = true) :
    ∃ v < 64, Base64.symbol .urlSafe v = c := by
  have hself := Char.ofNat_toNat c
  simp only [isLinkSymbol, Bool.or_eq_true, Bool.and_eq_true, decide_eq_true_eq, beq_iff_eq,
    Char.le_def, UInt32.le_iff_toNat_le] at h
  rcases h with (((⟨hlo, hhi⟩ | ⟨hlo, hhi⟩) | ⟨hlo, hhi⟩) | rfl) | rfl
  · replace hlo : 65 ≤ c.toNat := hlo
    replace hhi : c.toNat ≤ 90 := hhi
    refine ⟨c.toNat - 65, by omega, ?_⟩
    rw [Base64.symbol, if_pos (by omega), show 65 + (c.toNat - 65) = c.toNat by omega, hself]
  · replace hlo : 97 ≤ c.toNat := hlo
    replace hhi : c.toNat ≤ 122 := hhi
    refine ⟨c.toNat - 71, by omega, ?_⟩
    rw [Base64.symbol, if_neg (by omega), if_pos (by omega),
      show 71 + (c.toNat - 71) = c.toNat by omega, hself]
  · replace hlo : 48 ≤ c.toNat := hlo
    replace hhi : c.toNat ≤ 57 := hhi
    refine ⟨c.toNat + 4, by omega, ?_⟩
    rw [Base64.symbol, if_neg (by omega), if_neg (by omega), if_pos (by omega),
      Nat.add_sub_cancel, hself]
  · exact ⟨62, by decide, rfl⟩
  · exact ⟨63, by decide, rfl⟩

theorem exists_symbols (extra : List Char) (h : ∀ c ∈ extra, isLinkSymbol c = true) :
    ∃ vs : List Nat, (∀ v ∈ vs, v < 64) ∧ vs.map (Base64.symbol .urlSafe) = extra := by
  induction extra with
  | nil => exact ⟨[], by simp, rfl⟩
  | cons c extra ih =>
    rw [List.forall_mem_cons] at h
    obtain ⟨v, hv, rfl⟩ := exists_symbol c h.1
    obtain ⟨vs, hvs, rfl⟩ := ih h.2
    exact ⟨v :: vs, List.forall_mem_cons.mpr ⟨hv, hvs⟩, rfl⟩

/-- Symbols are refused if whatever bytes they spell are neither a stream nor text. -/
theorem refused_of_symbols (token : String) (vs : List Nat) (hlt : ∀ v ∈ vs, v < 64)
    (htoken : normalize token.toList = vs.map (Base64.symbol .urlSafe))
    (hbytes : vs ≠ [] → vs.length % 4 ≠ 1 → Base64.zeroRest vs = true →
      Zlib.decompress? (Base64.octets vs) = none ∧ ofUtf8? (Base64.octets vs) = none) :
    ∃ fault, decode token = .error fault := by
  have hdecode := Base64.decode_symbols .urlSafe vs hlt
  by_cases hnil : vs = []
  · exact ⟨.empty, by simp [decode, payload, htoken, hnil]⟩
  by_cases hlength : vs.length % 4 = 1
  · rw [if_pos hlength] at hdecode
    exact ⟨.base64 (.invalidLength vs.length), by simp [decode, payload, htoken, hnil, hdecode]⟩
  rw [if_neg hlength] at hdecode
  by_cases hrest : Base64.zeroRest vs = true
  · rw [if_pos hrest] at hdecode
    obtain ⟨hstream, htext⟩ := hbytes hnil hlength hrest
    exact ⟨_, by simp [decode, payload, htoken, hnil, hdecode, Zlib.expand?, hstream, htext]; rfl⟩
  · rw [if_neg hrest] at hdecode
    exact ⟨_, by simp [decode, payload, htoken, hnil, hdecode]; rfl⟩

/-! ### Streams -/

theorem ofUtf8?_of_header (bytes : List UInt8) (h : Zlib.header <+: bytes) :
    ofUtf8? bytes = none := by
  obtain ⟨rest, rfl⟩ := h
  exact ofUtf8?_header rest

/-- The first two symbols of a stream leave bits over, so they spell nothing on their own. -/
theorem zeroRest_header (rest : List UInt8) :
    Base64.zeroRest ((Base64.sextets (0x78 :: 0x9C :: rest)).take 2) = false := by
  cases rest <;> rfl

section Stream

variable {stream content : List UInt8} (hheader : Zlib.header <+: stream)
  (hstream : Zlib.decompress? stream = some content)

include hheader hstream

/-- What a stream that is cut short leaves is no stream, and still begins with the header. -/
theorem refused_of_cut (token : String) (vs ws : List Nat) (hws : ws ≠ [])
    (hvs : vs ++ ws = Base64.sextets stream)
    (htoken : normalize token.toList = vs.map (Base64.symbol .urlSafe)) :
    ∃ fault, decode token = .error fault := by
  have hlt : ∀ v ∈ vs, v < 64 := fun v hv =>
    Base64.sextets_lt stream v (by rw [← hvs]; exact List.mem_append_left ws hv)
  refine refused_of_symbols token vs hlt htoken fun hnil hlength hrest => ?_
  obtain ⟨more, hmore, hoctets⟩ := Base64.octets_append vs ws hws
    (by rw [hvs]; exact Base64.length_sextets_mod stream)
  rw [hvs, Base64.octets_sextets] at hoctets
  refine ⟨Zlib.decompress?_of_append _ content more (by rw [← hoctets, hstream]) hmore, ?_⟩
  apply ofUtf8?_of_header
  refine List.prefix_of_prefix_length_le hheader ⟨more, hoctets.symm⟩ ?_
  -- Two symbols would leave bits over, so there are three at least, and both bytes of the header.
  have htwo : vs.length ≠ 2 := by
    intro htwo
    obtain ⟨rest, hrest'⟩ := hheader
    have hhead : vs = (Base64.sextets (0x78 :: 0x9C :: rest)).take 2 := by
      rw [show (0x78 :: 0x9C :: rest : List UInt8) = stream from hrest', ← hvs, ← htwo,
        List.take_left]
    rw [hhead, zeroRest_header] at hrest
    exact Bool.noConfusion hrest
  have hpos : 0 < vs.length := List.length_pos_iff.mpr hnil
  rw [Base64.length_octets]
  simp only [Zlib.header, List.length_cons, List.length_nil]
  omega

/-- A stream with further symbols behind it has further bytes behind it. -/
theorem refused_of_extended (token : String) (ws : List Nat) (hws : ws ≠ [])
    (hlt : ∀ w ∈ ws, w < 64)
    (htoken : normalize token.toList =
      (Base64.sextets stream ++ ws).map (Base64.symbol .urlSafe)) :
    ∃ fault, decode token = .error fault := by
  have hall : ∀ v ∈ Base64.sextets stream ++ ws, v < 64 := by
    intro v hv
    rcases List.mem_append.mp hv with hv | hv
    · exact Base64.sextets_lt stream v hv
    · exact hlt v hv
  refine refused_of_symbols token _ hall htoken fun _ hlength _ => ?_
  obtain ⟨more, hmore, hoctets⟩ := Base64.octets_append (Base64.sextets stream) ws hws hlength
  rw [Base64.octets_sextets] at hoctets
  rw [hoctets]
  exact ⟨Zlib.decompress?_append stream content more hstream hmore,
    ofUtf8?_of_header _ (hheader.trans (List.prefix_append stream more))⟩

/-- A damaged token of a stream is refused, whoever wrote the stream. -/
theorem refused_of_mangled (token : String)
    (h : Mangled (Base64.encode .urlSafe stream) (normalize token.toList)) :
    ∃ fault, decode token = .error fault := by
  rcases h with ⟨hcut, hne⟩ | ⟨extra, hextra, hsymbols, htoken⟩
  · have htake := List.prefix_iff_eq_take.mp hcut
    rw [Base64.encode, ← List.map_take] at htake
    refine refused_of_cut hheader hstream token _
      ((Base64.sextets stream).drop (normalize token.toList).length) ?_
      (List.take_append_drop _ _) htake
    intro hnil
    rw [List.drop_eq_nil_iff] at hnil
    rw [List.take_of_length_le hnil] at htake
    exact hne htake
  · obtain ⟨ws, hlt, rfl⟩ := exists_symbols extra hsymbols
    refine refused_of_extended hheader hstream token ws ?_ hlt ?_
    · rintro rfl
      exact hextra rfl
    · rw [htoken, Base64.encode, List.map_append]

end Stream

/-- A token of a source that is cut short or goes on behind its end is refused. The same holds of
every stream that holds the source behind the usual header, by whatever means it was
compressed. -/
theorem mangled_token_refused (z : Zlib.Compressor) (source token : String) :
    (Mangled (encode z source).toList (normalize token.toList) →
      ∃ fault, decode token = .error fault) ∧
    ∀ stream, Zlib.header <+: stream →
      Zlib.decompress? stream = some (utf8 source.toList) →
      Mangled (Base64.encode .urlSafe stream) (normalize token.toList) →
      ∃ fault, decode token = .error fault := by
  refine ⟨fun h => ?_, fun stream hheader hstream h => refused_of_mangled hheader hstream token h⟩
  rw [encode, String.toList_ofList] at h
  exact refused_of_mangled (z.header_prefix _) (z.decompress?_compress _) token h

theorem flowchartStream_mangled :
    (∃ fault, decode "eJxLL0osyFAIceFy1NW1cwIAIfwD8" = .error fault) ∧
    (∃ fault,
      decode (String.ofList ((encode Zlib.packer "pie").toList ++ ['A', 'A'])) = .error fault) := by
  constructor
  · have hmangled : Mangled (Base64.encode .urlSafe flowchartStream)
        (normalize "eJxLL0osyFAIceFy1NW1cwIAIfwD8".toList) := by
      refine Or.inl ⟨?_, ?_⟩ <;> decide +kernel
    exact (mangled_token_refused Zlib.packer "graph TD\nA-->B" _).2 flowchartStream
      (by decide +kernel) (by decide +kernel) hmangled
  · have htoken : normalize ((encode Zlib.packer "pie").toList ++ ['A', 'A']) =
        (encode Zlib.packer "pie").toList ++ ['A', 'A'] := by
      rw [encode, String.toList_ofList, normalize, List.filterMap_append, ← normalize,
        normalize_encode]
      rfl
    refine (mangled_token_refused Zlib.packer "pie" _).1 (Or.inr ⟨['A', 'A'], by simp, ?_, ?_⟩)
    · exact List.all_eq_true.mp rfl
    · rw [String.toList_ofList, htoken]

end DiagramDesk.Token
