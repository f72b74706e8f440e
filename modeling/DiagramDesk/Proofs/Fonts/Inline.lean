import DiagramDesk.Export.Exporter
import DiagramDesk.Proofs.Codec.Base64
import DiagramDesk.Proofs.Fonts.Cache
import DiagramDesk.Proofs.Svg.Root

/-!
Documents with their fonts inside. Each reference to a remote file is replaced by the file
or taken out. A file in a reference is a barrier that no other reference can reach across,
so nothing comes about but where references were taken out.
-/
namespace DiagramDesk

open Text Svg

/-! ### Files inside references -/

/-- A character of the address of a file's content. -/
def isDataMark (c : Char) : Bool :=
  c.isAlphanum || c == ':' || c == ';' || c == ',' || c == '/' || c == '+' || c == '='

theorem isDataMark_symbol : ∀ v < 64, isDataMark (Base64.symbol .standard v) = true := by
  decide

theorem isDataMark_of_mem_encodePadded (bytes : List UInt8) :
    ∀ c ∈ Base64.encodePadded .standard bytes, isDataMark c = true := by
  intro c hc
  obtain hc | hc := List.mem_append.mp hc
  · obtain ⟨v, hv, rfl⟩ := List.mem_map.mp hc
    exact isDataMark_symbol v (Base64.sextets_lt bytes v hv)
  · rw [List.eq_of_mem_replicate hc]
    decide

def quote : Char := Char.ofNat 39

def dataReference (content : List Char) : List Char :=
  referenceStart ++ quote :: 'd' :: ("ata:".toList ++ content ++ [quote, ')'])

section DataReference

variable {content : List Char} (h : ∀ c ∈ content, isDataMark c = true)
include h

theorem not_mem_content {c : Char} (hc : isDataMark c = false) : c ∉ content :=
  fun hm => by simp [h c hm] at hc

/-- No reference to a remote file touches a reference to some content. -/
theorem inert_dataReference : Inert remoteReference (dataReference content) := by
  have hstops {v w a : List Char} {n : Nat}
      (hm : remoteReference (v ++ (dataReference content ++ w)) = some (a, n)) : n ≤ v.length := by
    rw [dataReference, List.append_assoc, List.cons_append, List.cons_append] at hm
    exact reference_stops referenceStart (by decide) (.inr (by decide)) (by decide) hm
  refine ⟨fun u w => ?_, fun v w hv hne => ?_⟩
  · rw [crosses_eq_false_iff]
    exact fun v _ _ a n hm => hstops hm
  · have hstart : dataReference content = 'u' :: 'r' :: 'l' :: '(' :: quote :: 'd' ::
        ("ata:".toList ++ content ++ [quote, ')']) := rfl
    rw [hstart, List.suffix_cons_iff, List.suffix_cons_iff, List.suffix_cons_iff,
      List.suffix_cons_iff] at hv
    obtain rfl | rfl | rfl | rfl | hv := hv
    · cases hm : remoteReference (dataReference content ++ w) with
      | none => exact hm
      | some m =>
        have hn := hstops (v := []) hm
        exact absurd (remoteReference_local.pos hm) (Nat.not_lt.mpr hn)
    · exact remoteReference_cons_eq_none (by decide) _
    · exact remoteReference_cons_eq_none (by decide) _
    · exact remoteReference_cons_eq_none (by decide) _
    · -- The rest ends in the closing parenthesis and holds no opening one.
      have hparen : '(' ∉ content := not_mem_content h (by decide)
      have hlast : quote :: 'd' :: ("ata:".toList ++ content ++ [quote, ')']) =
          (quote :: 'd' :: ("ata:".toList ++ content ++ [quote])) ++ [')'] := by simp
      have hmem := mem_of_suffix_concat (hlast ▸ hv) hne
      refine remoteReference_eq_none hmem (by decide) (fun hc => ?_) w
      have hc' := hv.subset hc
      simp [hparen, quote] at hc'

theorem inert_styleEnd_dataReference : Inert (literal styleEnd) (dataReference content) := by
  have hcontent : '<' ∉ content := not_mem_content h (by decide)
  have hend : styleEnd = '<' :: "/style>".toList := rfl
  have htext : dataReference content = 'u' :: ("rl(".toList ++ quote :: 'd' ::
      ("ata:".toList ++ content ++ [quote, ')'])) := rfl
  rw [hend, htext]
  exact literal_inert (by decide) (by simp [hcontent, quote])

end DataReference

theorem dataReference_eq (content : List Char) :
    dataReference content = "url('".toList ++ ("data:".toList ++ (content ++ "')".toList)) := by
  simp [dataReference, referenceStart, quote]

namespace FontFile

theorem all_mimeOf (url : String) : (mimeOf url).toList.all isDataMark = true := by
  rw [mimeOf]
  split
  · decide
  · split
    · decide
    · split <;> decide

/-- A file in a reference. -/
theorem exists_dataReference (f : FontFile) :
    ∃ content, (∀ c ∈ content, isDataMark c = true) ∧
      ("url('" ++ f.dataUri ++ "')").toList = dataReference content := by
  refine ⟨f.mime.toList ++ ";base64,".toList ++ Base64.encodePadded .standard f.bytes, ?_, ?_⟩
  · intro c hc
    obtain (hc | hc) | hc := by simpa only [List.mem_append] using hc
    · exact List.all_eq_true.mp (all_mimeOf f.url) c hc
    · exact List.all_eq_true.mp (by decide : ";base64,".toList.all isDataMark = true) c hc
    · exact isDataMark_of_mem_encodePadded f.bytes c hc
  · simp only [dataUri, dataReference_eq, String.toList_append, String.toList_ofList,
      List.append_assoc]

end FontFile

/-! ### What takes the place of references -/

namespace FontCache

variable (c : FontCache)

def substitute (address : List Char) : List Char := (c.replacement address).1

theorem substitute_eq (address : List Char) :
    c.substitute address = ((c.get (String.ofList address)).1.map fun file =>
      ("url('" ++ file.dataUri ++ "')").toList).getD [] := rfl

/-- Nothing, or a reference to the content of a file. -/
theorem substitute_cases (address : List Char) :
    c.substitute address = [] ∨
      ∃ content, (∀ d ∈ content, isDataMark d = true) ∧
        c.substitute address = dataReference content := by
  rw [substitute_eq]
  cases (c.get (String.ofList address)).1 with
  | none => exact .inl rfl
  | some file =>
    obtain ⟨content, hcontent, he⟩ := file.exists_dataReference
    refine .inr ⟨content, hcontent, ?_⟩
    rw [Option.map_some, Option.getD_some, he]

theorem inert_substitute (address : List Char) (h : c.substitute address ≠ []) :
    Inert remoteReference (c.substitute address) := by
  obtain he | ⟨content, hcontent, he⟩ := c.substitute_cases address
  · exact absurd he h
  · exact he ▸ inert_dataReference hcontent

theorem inert_styleEnd_substitute (address : List Char) (h : c.substitute address ≠ []) :
    Inert (literal styleEnd) (c.substitute address) := by
  obtain he | ⟨content, hcontent, he⟩ := c.substitute_cases address
  · exact absurd he h
  · exact he ▸ inert_styleEnd_dataReference hcontent

theorem Alike.substitute {c c' : FontCache} (h : Alike c c') : c'.substitute = c.substitute := by
  funext address
  rw [substitute_eq, substitute_eq, h]

theorem Alike.trans {c c' c'' : FontCache} (h : Alike c c') (h' : Alike c' c'') : Alike c c'' :=
  fun url => (h' url).trans (h url)

/-- References are replaced in their order, but each as if it were the first. -/
theorem inlineBody_eq (body : List Char) :
    (c.inlineBody body).1 = replaceAll remoteReference c.substitute body ∧
      Alike c (c.inlineBody body).2 :=
  replaceSpans_eq
    (fun c' address (h : Alike c c') =>
      ⟨congrFun h.substitute address, h.trans (c'.alike_get (String.ofList address))⟩)
    _ c fun _ => rfl

def inlined (markup : List Char) : List Char :=
  mapStyles (replaceAll remoteReference c.substitute) markup

theorem rewriteStyles_eq (markup : List Char) :
    (rewriteStyles inlineBody c markup).1 = c.inlined markup ∧
      Alike c (rewriteStyles inlineBody c markup).2 := by
  refine replaceSpans_eq (fun c' b (h : Alike c c') => ?_) _ c fun _ => rfl
  obtain ⟨hbody, halike⟩ := c'.inlineBody_eq b.body
  rw [h.substitute] at hbody
  exact ⟨by simp [hbody], h.trans halike⟩

end FontCache

/-! ### The rule of a hand font -/

/-- The style rule that brings a font file with it. -/
def faceRule (font : HandFont) (file : FontFile) : String :=
  "@font-face \x7b font-family: '" ++ font.family ++ "'; src: url('" ++ file.dataUri ++
    "') format('" ++ file.cssFormat ++ "'); font-display: swap; \x7d"

def faceStart (font : HandFont) : String :=
  "@font-face \x7b font-family: '" ++ font.family ++ "'; src: "

/-- The rule of a font behind the reference to its file. -/
def faceEnd (format : String) : String :=
  " format('" ++ format ++ "'); font-display: swap; \x7d"

theorem faceRule_eq (font : HandFont) (file : FontFile) :
    faceRule font file =
      faceStart font ++ (("url('" ++ file.dataUri ++ "')") ++ faceEnd file.cssFormat) := by
  have hstart : "'; src: url('".toList = "'; src: ".toList ++ "url('".toList := rfl
  have hend : "') format('".toList = "')".toList ++ " format('".toList := rfl
  apply String.toList_inj.mp
  unfold faceRule faceStart faceEnd
  simp only [String.toList_append, hstart, hend, List.append_assoc]

theorem cssFormat_mem (file : FontFile) : file.cssFormat ∈ ["woff2", "woff", "truetype"] := by
  rw [FontFile.cssFormat]
  split <;> simp

/-- A rule holds nothing but its file. -/
theorem free_faceRule {p : Pattern β} (hp : p.Local) (font : HandFont) (file : FontFile)
    (hbase : ∀ font : HandFont, ∀ format ∈ ["woff2", "woff", "truetype"],
      Free p ((faceStart font).toList ++ (faceEnd format).toList))
    (hdata : ∀ content : List Char, (∀ c ∈ content, isDataMark c = true) →
      Inert p (dataReference content)) : Free p (faceRule font file).toList := by
  obtain ⟨content, hcontent, he⟩ := file.exists_dataReference
  rw [faceRule_eq, String.toList_append, String.toList_append, he]
  exact hp.free_insert (hbase font _ (cssFormat_mem file)) (hdata content hcontent)

theorem free_remoteReference_faceRule (font : HandFont) (file : FontFile) :
    Free remoteReference (faceRule font file).toList := by
  refine free_faceRule remoteReference_local font file ?_ fun _ => inert_dataReference
  intro font
  cases font <;> decide +kernel

theorem ahead_styleEnd_faceRule (font : HandFont) (file : FontFile) :
    Ahead styleEnd (faceRule font file).toList := by
  rw [ahead_styleEnd_iff]
  refine free_faceRule styleEnd_local font file ?_ fun _ => inert_styleEnd_dataReference
  intro font
  cases font <;> decide +kernel

namespace FontCache

theorem face_fst (c : FontCache) (font : HandFont) :
    (c.face font).1 = font.source?.bind fun url => (c.get url).1.map (faceRule font) := by
  rw [face]
  cases font.source? <;> rfl

theorem Alike.face {c c' : FontCache} (h : Alike c c') (font : HandFont) :
    (c'.face font).1 = (c.face font).1 := by
  rw [face_fst, face_fst]
  exact congrArg _ (funext fun url => by rw [h])

theorem exists_faceRule {c : FontCache} {font : HandFont} {rule : String}
    (h : (c.face font).1 = some rule) : ∃ file, rule = faceRule font file := by
  rw [face_fst] at h
  obtain ⟨url, -, h⟩ := Option.bind_eq_some_iff.mp h
  obtain ⟨file, -, rfl⟩ := Option.map_eq_some_iff.mp h
  exact ⟨file, rfl⟩

end FontCache

/-! ### Exported documents -/

/-- A document with its fonts inside: its references are replaced, and the rule of the hand font,
if its file can be had, is put into the root element. -/
theorem FontCache.inline_fst (c : FontCache) (svg : String) (font : Option HandFont) :
    (c.inline svg font).1 = match font.bind fun font => (c.face font).1 with
      | some rule => insertAfterRoot (String.ofList (c.inlined svg.toList))
          ("<style>" ++ rule ++ "</style>")
      | none => String.ofList (c.inlined svg.toList) := by
  obtain ⟨htext, halike⟩ := c.rewriteStyles_eq svg.toList
  rw [inline, ← htext]
  cases font with
  | none => rfl
  | some font =>
    rw [Option.bind_some, ← halike.face font]
    cases hrule : ((rewriteStyles inlineBody c svg.toList).2.face font).1 <;> simp [hrule]

theorem noRemoteStyle_inline_iff {c : FontCache} {svg : String} {font : Option HandFont}
    (hroot : ∀ f head, font = some f → (c.face f).1.isSome →
      rootHead? (c.inlined svg.toList) = some head → ¬ styleStart <:+: head) :
    NoRemoteStyle (c.inline svg font).1.toList ↔ NoRemoteStyle (c.inlined svg.toList) := by
  rw [c.inline_fst]
  cases hrule : font.bind fun font => (c.face font).1 with
  | none => rw [String.toList_ofList]
  | some rule =>
    obtain ⟨f, hf, hface⟩ := Option.bind_eq_some_iff.mp hrule
    obtain ⟨file, rfl⟩ := FontCache.exists_faceRule hface
    have helement : ("<style>" ++ faceRule f file ++ "</style>").toList =
        styleElement (faceRule f file).toList := by
      unfold styleElement styleEnd
      simp only [String.toList_append]
    have htoList (s t : String) :
        (insertAfterRoot s t).toList = insertAfterRootText s.toList t.toList := String.toList_ofList
    rw [htoList, helement, String.toList_ofList]
    exact noRemoteStyle_insertAfterRoot_iff (fun head => hroot f head hf (by simp [hface]))
      (ahead_styleEnd_faceRule f file) (free_remoteReference_faceRule f file)

/-- An exported document, if no closing style tag is put together where references to files that
cannot be had are taken out, and if the rule of a hand font, where one is brought along, is put in
ahead of all style tags. With its fonts inside it holds no reference to a remote file in a style
block exactly if no reference is put together there, and giving it a namespace brings none. -/
theorem noRemoteStyle_exportVector (scene : Scene) (settings : Settings) (fonts : FontCache)
    (hstyles : KeepsStyles fonts.substitute scene.markup.toList)
    (hroot : ∀ font head, handFontFor scene settings = some font → (fonts.face font).1.isSome →
      rootHead? (fonts.inlined scene.markup.toList) = some head → ¬ styleStart <:+: head) :
    (NoRemoteStyle (fonts.inline scene.markup (handFontFor scene settings)).1.toList ↔
      KeepsReferences fonts.substitute scene.markup.toList) ∧
    (KeepsReferences fonts.substitute scene.markup.toList →
      NoRemoteStyle (exportVector scene settings fonts).1.toList) := by
  have hinlined := (noRemoteStyle_inline_iff hroot).trans
    (noRemoteStyle_iff fonts.inert_substitute fonts.inert_styleEnd_substitute hstyles)
  refine ⟨hinlined, fun hreferences => ?_⟩
  have hexport := noRemoteStyle_ensureNamespace (hinlined.mpr hreferences)
  have htoList (svg : String) : (ensureNamespace svg).toList = ensureNamespaceText svg.toList :=
    String.toList_ofList
  rwa [← htoList] at hexport

/-- Fonts of which some cannot be had. -/
def someFonts : FontCache where
  fetch url _ :=
    if contains url.toList "lost".toList then .error (.request url "not found")
    else .ok [0, 1, 0, 0]

/-- A drawing by hand with two references, one of them to a font that cannot be had. -/
def twoFonts : Scene where
  id := "d"
  markup := "<svg><style>a\x7bsrc:url(\"https://x/a\") url( http://lost )\x7d</style>Virgil</svg>"

/-- A style with a reference inside the scheme of another one. -/
def splitReference : Scene where
  id := "d"
  markup := "<svg xmlns=\"\"><style>url(htturl(https://lost)ps://lost)</style></svg>"

theorem twoFonts_inlined :
    (KeepsStyles someFonts.substitute twoFonts.markup.toList ∧
      (∀ f head, handFontFor twoFonts {} = some f → (someFonts.face f).1.isSome →
        rootHead? (someFonts.inlined twoFonts.markup.toList) = some head →
          ¬ styleStart <:+: head)) ∧
    handFontFor twoFonts {} = some .virgil ∧ (someFonts.face .virgil).1.isSome ∧
    KeepsReferences someFonts.substitute twoFonts.markup.toList ∧
    NoRemoteStyle (exportVector twoFonts {} someFonts).1.toList := by
  have hstyles : KeepsStyles someFonts.substitute twoFonts.markup.toList := by decide +kernel
  have hreferences : KeepsReferences someFonts.substitute twoFonts.markup.toList := by
    decide +kernel
  have hhead : rootHead? (someFonts.inlined twoFonts.markup.toList) =
      some "<svg".toList := by decide +kernel
  have hroot : ∀ f head, handFontFor twoFonts {} = some f → (someFonts.face f).1.isSome →
      rootHead? (someFonts.inlined twoFonts.markup.toList) = some head →
        ¬ styleStart <:+: head := by
    intro f head _ _ h
    rw [hhead, Option.some.injEq] at h
    rw [← h]
    decide
  obtain ⟨-, hexport⟩ := noRemoteStyle_exportVector twoFonts {} someFonts hstyles hroot
  exact ⟨⟨hstyles, hroot⟩, by decide +kernel, by decide +kernel, hreferences, hexport hreferences⟩

/-- Taking the inner reference out puts the outer one together. -/
theorem splitReference_inlined :
    (exportVector splitReference {} someFonts).1 =
      "<svg xmlns=\"\"><style>url(https://lost)</style></svg>" ∧
    ¬ NoRemoteStyle (exportVector splitReference {} someFonts).1.toList := by
  decide +kernel

end DiagramDesk
