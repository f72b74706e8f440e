import DiagramDesk.Embed
import DiagramDesk.Proofs.Pipeline
import DiagramDesk.Proofs.Share.Link
import DiagramDesk.Proofs.Url.Sibling

/-!
The page for embedding. Its link is that of the page beside the editor, which has no query, so the
token in the fragment is what is read. If the source comes back from the token, the page shows what
the editor would show: both draw it once, with the first ticket of a pipeline, from the same style.
-/
namespace DiagramDesk

open Text

namespace Link

/-! ### The page of a link -/

theorem pageName_embedPage : Url.PageName embedPage where
  inner := by decide
  settled := by constructor <;> decide
  nonempty := by decide
  noDrive := by decide

def embedStream (base : Url) (stream : List UInt8) : Except Url.Fault Url :=
  (base.sibling embedPage).map (·.withFragment (Base64.encode .urlSafe stream))

theorem embedUrl_eq (z : Zlib.Compressor) (base : Url) (source : String) :
    embedUrl z base source = embedStream base (z.compress (utf8 source.toList)) := by
  rw [embedUrl, embedStream, fragmentOf_eq]

/-- Where there is no query, no source has to be taken out of it. -/
theorem streamUrl_eq_withFragment {page : Url} (hquery : page.query = none)
    (hpath : page.path.Inner) (stream : List UInt8) :
    streamUrl page stream = page.withFragment (Base64.encode .urlSafe stream) := by
  have hnone : otherPairs page = [] := by
    rw [otherPairs, Url.pairs, hquery]
    rfl
  obtain ⟨names, hnames, -⟩ := hpath
  rw [streamUrl, dropCode_eq, hnone]
  simp [Url.dropQuery, Url.settle, hnames, Url.withFragment, hquery]

/-- The links to the page for embedding are links to a page that is read from its own text. -/
theorem exists_embedPage {base : Url} (hread : Url.parse base.text = .ok base)
    (hopens : opens base = true) :
    ∃ page, Url.parse page.text = .ok page ∧ opens page = true ∧
      (∀ stream, embedStream base stream = .ok (streamUrl page stream)) ∧
      ∀ z source, embedUrl z base source = .ok (shareUrl z page source) := by
  obtain ⟨page, hpage, hscheme, -, hquery, hread'⟩ :=
    Url.parse_sibling hread (isKnown_of_opens hopens) pageName_embedPage
  have hopens' : opens page = true := by
    rw [opens, hscheme]
    exact hopens
  have hpath := (Url.clean_of_parse hread' (isKnown_of_opens hopens')).2.2
  have hlink (stream : List UInt8) : embedStream base stream = .ok (streamUrl page stream) := by
    rw [embedStream, hpage, streamUrl_eq_withFragment hquery hpath]
    rfl
  refine ⟨page, hread', hopens', hlink, fun z source => ?_⟩
  rw [embedUrl_eq, hlink, shareUrl_eq]

end Link

namespace EmbedView

/-! ### What the page shows -/

/-- A page for embedding shows what is on screen: the same diagram and no other, the message of a
panel, and for a placeholder that there is no diagram. -/
structure Agrees (lang : Language) (v : EmbedView) (shown : Content) : Prop where
  diagram : ∀ scene, v = rendered scene ↔ shown = .diagram scene
  error : ∀ panel, shown = .error panel → v = failed panel.message
  placeholder : shown = .placeholder → v = failed lang.phrases.noDiagram

/-- A token that gives the text of an editor is drawn as that text is. -/
theorem agrees_opened {token : String} {editor : Editor} (engine : Engine) (settings : Settings)
    (preview : Preview) (now : Nat) (h : Link.sourceOf token = .ok editor.text) :
    Agrees settings.lang (opened token engine settings)
      (({ lang := settings.lang } : Pipeline).render editor preview settings.style engine
        now).2.2.content := by
  rw [Pipeline.render_eq, Pipeline.content_commit]
  simp only [opened, h, Pipeline.start]
  cases ((({ lang := settings.lang } : Pipeline).jobFor editor.text settings.style).run
    engine).outcome with
  | empty => constructor <;> simp
  | success scene => constructor <;> simp
  | failure f => constructor <;> simp [Pipeline.panel]

/-- A source that does not fit its token is refused. -/
theorem opened_lost {z : Zlib.Compressor} {page : Url} {source : String} (engine : Engine)
    (settings : Settings)
    (hpage : Url.parse page.text = .ok page) (hopens : Link.opens page = true)
    (hlost : Link.room z source < Link.size source) :
    opened (toString (Link.shareUrl z page source)) engine settings =
      failed (settings.lang.phrases.failedWith (Token.Fault.utf8 ⟨1, some 1⟩).message) := by
  rw [opened, Link.sourceOf_shareUrl hpage hopens, if_neg (Nat.not_le.mpr hlost)]

/-- Every page has a page for embedding. Its link to the text of an editor is read from its own text
and shows what the editor shows, if the text fits the room of the stream in its token, whatever
compressor wrote it; otherwise the token is refused. So it is with any other stream that holds the
text: the text is read from its link exactly if it fits. -/
theorem embed_agrees_within_room (z : Zlib.Compressor) (base : Url) (editor : Editor)
    (preview : Preview) (engine : Engine) (settings : Settings) (now : Nat)
    (hread : Url.parse base.text = .ok base) (hopens : Link.opens base = true) :
    let shown := (({ lang := settings.lang } : Pipeline).render editor preview settings.style engine
      now).2.2.content
    (∃ url, Link.embedUrl z base editor.text = .ok url ∧ Url.parse url.text = .ok url ∧
      (Link.size editor.text ≤ Link.room z editor.text →
        Agrees settings.lang (opened (toString url) engine settings) shown) ∧
      (Link.room z editor.text < Link.size editor.text →
        opened (toString url) engine settings =
          failed (settings.lang.phrases.failedWith (Token.Fault.utf8 ⟨1, some 1⟩).message))) ∧
    ∀ stream, Zlib.decompress? stream = some (utf8 editor.text.toList) →
      ∃ url, Link.embedStream base stream = .ok url ∧
        (Link.sourceOf (toString url) = .ok editor.text ↔
          Link.size editor.text ≤ Zlib.room stream.length) ∧
        (Link.size editor.text ≤ Zlib.room stream.length →
          Agrees settings.lang (opened (toString url) engine settings) shown) := by
  intro shown
  obtain ⟨page, hpage, hpageOpens, hstreams, hsources⟩ := Link.exists_embedPage hread hopens
  refine ⟨⟨Link.shareUrl z page editor.text, hsources z editor.text, ?_, fun hfits => ?_,
    opened_lost engine settings hpage hpageOpens⟩, ?_⟩
  · rw [Link.shareUrl_eq]
    exact Link.parse_streamUrl hpage hpageOpens
  · refine agrees_opened engine settings preview now ?_
    rw [Link.sourceOf_shareUrl hpage hpageOpens, if_pos hfits]
  · intro stream hstream
    have hne : stream ≠ [] := by
      rintro rfl
      simp [Zlib.decompress?] at hstream
    have hsource : Link.sourceOf (toString (Link.streamUrl page stream)) = .ok editor.text ↔
        Link.size editor.text ≤ Zlib.room stream.length := by
      rw [Link.sourceOf_streamUrl hpage hpageOpens hne]
      exact Token.decode_stream_iff editor.text stream hstream
    exact ⟨Link.streamUrl page stream, hstreams stream, hsource, fun hfits =>
      agrees_opened engine settings preview now (hsource.mpr hfits)⟩

/-- An engine that puts every text into a picture. -/
def verbatim : Engine where
  validate _ := .ok ()
  render id source _ := .ok ("<svg id=\"" ++ id ++ "\">" ++ source ++ "</svg>")

/-- The page beside a local page shows what the editor shows. -/
theorem localPage_embed :
    Url.parse Link.localPage.text = .ok Link.localPage ∧ Link.opens Link.localPage = true ∧
    Link.size "pie" ≤ Link.room Zlib.packer "pie" ∧
    ∃ url, Link.embedUrl Zlib.packer Link.localPage "pie" = .ok url ∧
      opened (toString url) verbatim {} =
        rendered ⟨"mermaid-diagram-1", "<svg id=\"mermaid-diagram-1\">pie</svg>"⟩ := by
  have hopens : Link.opens Link.localPage = true := by decide +kernel
  have hfits : Link.size "pie" ≤ Link.room Zlib.packer "pie" :=
    Nat.le_trans (by decide) (Nat.le_max_right _ 64)
  obtain ⟨⟨url, hurl, -, hagrees, -⟩, -⟩ := embed_agrees_within_room Zlib.packer Link.localPage
    (.ofText "pie") {} verbatim {} 0 Link.parse_localPage hopens
  exact ⟨Link.parse_localPage, hopens, hfits, url, hurl, ((hagrees hfits).diagram _).mpr rfl⟩

/-- The page for five hundred times the same letter fails where the editor shows a diagram. -/
theorem embed_of_letters_lost :
    let shown := (({ lang := .en } : Pipeline).render (.ofText Token.manyLetters) {}
      ({} : Settings).style verbatim 0).2.2.content
    ∃ url, Link.embedUrl Zlib.packer Link.localPage Token.manyLetters = .ok url ∧
      opened (toString url) verbatim {} =
        failed "Operation failed: share token does not hold UTF-8 text" ∧
      shown = .diagram ⟨"mermaid-diagram-1",
        "<svg id=\"mermaid-diagram-1\">" ++ Token.manyLetters ++ "</svg>"⟩ := by
  intro shown
  obtain ⟨page, hpage, hpageOpens, -, hsources⟩ :=
    Link.exists_embedPage Link.parse_localPage (by decide +kernel)
  have hlost : Link.room Zlib.packer Token.manyLetters < Link.size Token.manyLetters := by
    rw [Link.room_manyLetters, Link.size_manyLetters]
    decide
  have hblank : blank Token.manyLetters.toList = false :=
    (congrArg blank String.toList_ofList).trans (by decide +kernel)
  have hshown : shown = .diagram ⟨"mermaid-diagram-1",
      "<svg id=\"mermaid-diagram-1\">" ++ Token.manyLetters ++ "</svg>"⟩ := by
    rw [show shown = _ from congrArg (fun r => r.2.2.content) (Pipeline.render_eq ..),
      Pipeline.content_commit]
    simp only [Editor.ofText, Pipeline.jobFor, hblank]
    rfl
  exact ⟨_, hsources Zlib.packer Token.manyLetters,
    opened_lost verbatim {} hpage hpageOpens hlost, hshown⟩

end EmbedView

end DiagramDesk
