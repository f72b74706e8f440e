import DiagramDesk.Export.Exporter
import DiagramDesk.Proofs.Except
import DiagramDesk.Proofs.Files.Tree

/-!
What the delivery of an export does, whatever tools draw and write its picture. To files: it makes
directories where nothing is and writes one file, as its last step; every path still leads where it
led, and a text in any other file stays as it is. To the clipboard: it gives one clip. So an export
that fails, wherever it fails, has neither given a clip nor touched a file, and one that succeeds has
done one of the two, once. The file of the log is none of these files.
-/
namespace DiagramDesk

namespace Blob

variable (b : Blob) (t : FileTree) (path : String)

/-- Directories are made first; then the file is written, or nothing more is done. -/
theorem writeTo_cases :
    ∃ made, t.Keeps made ∧ t.SameFiles made ∧
      ((∃ failing fault, b.writeTo t path = (.error (.file failing fault), made)) ∨
        ∃ after, made.write (b.target path) b.content = .ok after ∧
          b.writeTo t path = (.ok (b.target path), after)) := by
  cases hparent : Path.parent? (b.target path) with
  | none =>
    refine ⟨t, .refl t, .refl t, ?_⟩
    unfold writeTo
    simp only [hparent]
    cases hwrite : t.write (b.target path) b.content with
    | error fault => exact .inl ⟨_, _, rfl⟩
    | ok after => exact .inr ⟨after, rfl, rfl⟩
  | some parent =>
    refine ⟨(t.makeDirectories parent).2, t.keeps_makeDirectories parent,
      t.sameFiles_makeDirectories parent, ?_⟩
    unfold writeTo
    simp only [hparent]
    cases (t.makeDirectories parent).1 with
    | error fault => exact .inl ⟨_, _, rfl⟩
    | ok made =>
      simp only [Except.mapError]
      cases (t.makeDirectories parent).2.write (b.target path) b.content with
      | error fault => exact .inl ⟨_, _, rfl⟩
      | ok after => exact .inr ⟨after, rfl, rfl⟩

theorem meet_writeTo {first second : String} (h : t.Meet first second) :
    (b.writeTo t path).2.Meet first second := by
  obtain ⟨made, hmade, -, ⟨_, _, hdone⟩ | ⟨after, hwritten, hdone⟩⟩ := b.writeTo_cases t path
  · rw [hdone]
    exact hmade.meet h
  · rw [hdone]
    exact FileTree.meet_write hwritten (hmade.meet h)

/-- A text stays in its file unless the export is written there. -/
theorem readText_writeTo {other text : String} (h : t.readText other = .ok text) :
    (b.writeTo t path).2.readText other = .ok text ∨
      (b.writeTo t path).2.Meet (b.target path) other := by
  obtain ⟨made, hmade, -, ⟨_, _, hdone⟩ | ⟨after, hwritten, hdone⟩⟩ := b.writeTo_cases t path
  · rw [hdone]
    exact .inl (hmade.readText h)
  · rw [hdone]
    exact FileTree.readText_write_other hwritten (hmade.readText h)

end Blob

/-- Fonts that were fetched change nothing but the cache and what the log was told. -/
theorem Host.exists_withFonts_eq (host : Host) (fonts : FontCache) :
    ∃ log, host.withFonts fonts = { host with fonts, log } := by
  unfold withFonts
  generalize fonts.requests.drop host.fonts.requests.length = requests
  suffices h : ∀ told : Host, ∃ log,
      requests.foldl (fun h r => h.record "fonts.fetch" (fonts.report r)) told =
        { told with log } from h { host with fonts }
  induction requests with
  | nil => exact fun told => ⟨told.log, rfl⟩
  | cons r requests ih =>
    intro told
    obtain ⟨log, hlog⟩ := ih (told.record "fonts.fetch" (fonts.report r))
    exact ⟨log, hlog⟩

theorem Host.files_withFonts (host : Host) (fonts : FontCache) :
    (host.withFonts fonts).files = host.files := by
  obtain ⟨log, h⟩ := host.exists_withFonts_eq fonts
  rw [h]

namespace ExportJob

variable (job : ExportJob) (settings : Settings) (host : Host)

/-- Up to its delivery, an export changes nothing but the fonts and what the log was told. -/
theorem exists_blob_eq : ∃ fonts log, (job.blob settings host).2 = { host with fonts, log } := by
  unfold blob
  cases job.scene with
  | none => exact ⟨host.fonts, host.log, rfl⟩
  | some scene =>
    obtain ⟨log, hfonts⟩ :=
      host.exists_withFonts_eq (exportVector scene settings host.fonts).2
    simp only [hfonts]
    cases job.format with
    | svg => exact ⟨_, _, rfl⟩
    | png =>
      dsimp only
      split <;> exact ⟨_, _, rfl⟩

/-- An export writes files by delivering to one. -/
theorem files_run :
    (job.run settings host).2.files =
      match (job.blob settings host).1, job.destination with
      | .ok blob, .file path => (blob.writeTo host.files path).2
      | _, _ => host.files := by
  obtain ⟨fonts, log, hhost⟩ := job.exists_blob_eq settings host
  simp only [run, hhost]
  cases (job.blob settings host).1 with
  | error fault => rfl
  | ok blob =>
    cases job.destination with
    | clipboard =>
      simp only [Blob.deliver]
      cases (blob.clip host.tools).bind host.clipboard.give <;> rfl
    | file path =>
      simp only [Blob.deliver]
      cases (blob.writeTo host.files path).1 <;> rfl

def target? : Option String :=
  match job.destination with
  | .clipboard => none
  | .file path => some (Blob.target ⟨job.format, .bytes []⟩ path)

/-- An exported document is text. -/
theorem blob_cases {b : Blob} (h : (job.blob settings host).1 = .ok b) :
    (job.format = .svg ∧ ∃ text, b = ⟨.svg, .ofText text⟩) ∨
      (job.format = .png ∧ ∃ content, b = ⟨.png, content⟩) := by
  unfold blob at h
  cases hscene : job.scene with
  | none =>
    rw [hscene] at h
    cases h
  | some scene =>
    rw [hscene] at h
    dsimp only at h
    cases hformat : job.format with
    | svg =>
      rw [hformat] at h
      exact .inl ⟨rfl, _, (Except.ok.inj h).symm⟩
    | png =>
      rw [hformat] at h
      dsimp only at h
      split at h
      · cases h
      · exact .inr ⟨rfl, _, (Except.ok.inj h).symm⟩

theorem format_blob {b : Blob} (h : (job.blob settings host).1 = .ok b) :
    b.format = job.format := by
  obtain ⟨hformat, _, rfl⟩ | ⟨hformat, _, rfl⟩ := job.blob_cases settings host h <;>
    exact hformat.symm

/-- An export does nothing to the files, or it delivers to its target. -/
theorem files_run_cases :
    (job.run settings host).2.files = host.files ∨
      ∃ (b : Blob) (path : String), job.target? = some (b.target path) ∧
        (job.run settings host).2.files = (b.writeTo host.files path).2 := by
  rw [files_run]
  cases hblob : (job.blob settings host).1 with
  | error fault => exact .inl rfl
  | ok b =>
    cases hdestination : job.destination with
    | clipboard => exact .inl rfl
    | file path =>
      refine .inr ⟨b, path, ?_, rfl⟩
      simp only [target?, hdestination, Blob.target, job.format_blob settings host hblob]

theorem meet_run {first second : String} (h : host.files.Meet first second) :
    (job.run settings host).2.files.Meet first second := by
  obtain hsame | ⟨b, path, -, hwritten⟩ := job.files_run_cases settings host
  · rwa [hsame]
  · rw [hwritten]
    exact b.meet_writeTo host.files path h

/-- A text stays in its file unless the export is written there. -/
theorem readText_run {other text : String} (h : host.files.readText other = .ok text) :
    (job.run settings host).2.files.readText other = .ok text ∨
      ∃ target, job.target? = some target ∧ (job.run settings host).2.files.Meet target other := by
  obtain hsame | ⟨b, path, htarget, hwritten⟩ := job.files_run_cases settings host
  · rw [hsame]
    exact .inl h
  · rw [hwritten]
    exact (b.readText_writeTo host.files path h).imp_right fun hmeet => ⟨_, htarget, hmeet⟩

end ExportJob

/-! ### All or nothing -/

/-- What an export puts on a clipboard: a document as text, and a picture as the pixels that are
read from its file. -/
inductive Blob.Shown (tools : Tools) : Blob → Clip → Prop
  | text (s : String) : Shown tools ⟨.svg, .ofText s⟩ (.text s)
  | pixels (content : FileContent) (p : Picture) (read : tools.decode content = .ok p) :
      Shown tools ⟨.png, content⟩ (.picture p)

/-- A delivery was made, once. The clipboard holds one clip more and the files are as they were, or
the target holds what was exported, and the clipboard and all other files are as they were. -/
def Blob.Delivered (b : Blob) (host after : Host) : Destination → Prop
  | .clipboard => after.files = host.files ∧
      ∃ clip, b.Shown host.tools clip ∧
        after.clipboard = { host.clipboard with clips := host.clipboard.clips ++ [clip] }
  | .file path => after.clipboard = host.clipboard ∧
      host.files.Wrote after.files (b.target path) b.content

/-- No delivery was made: the clipboard is as it was, and so are all files. -/
structure Undelivered (host after : Host) : Prop where
  clipboard : after.clipboard = host.clipboard
  files : host.files.SameFiles after.files

theorem Clipboard.give_cases (c : Clipboard) (clip : Clip) :
    (∃ reason, c.give clip = .error (.clipboard reason)) ∨
      c.give clip = .ok { c with clips := c.clips ++ [clip] } := by
  unfold give
  cases c.refusal <|> c.refuses c.clips clip with
  | some reason => exact .inl ⟨reason, rfl⟩
  | none => exact .inr rfl

namespace Blob

variable (b : Blob) (host : Host)

theorem clip_error {tools : Tools} {fault : ExportFault} (h : b.clip tools = .error fault) :
    ∃ reason, fault = .badContent reason := by
  unfold clip at h
  split at h <;> split at h <;> cases h <;> exact ⟨_, rfl⟩

/-- What is shown is put on the clipboard as the last step, and a file is written as the last step;
so where a step fails there is no new clip, and all files are as they were. -/
theorem deliver_cases (hshown : ∀ clip, b.clip host.tools = .ok clip → b.Shown host.tools clip)
    (destination : Destination) :
    (∃ written after, b.deliver destination host = (.ok written, after) ∧
        b.Delivered host after destination) ∨
      ∃ fault after, b.deliver destination host = (.error fault, after) ∧ fault ≠ .noDiagram ∧
        Undelivered host after := by
  cases destination with
  | clipboard =>
    unfold deliver
    cases hclip : b.clip host.tools with
    | error fault =>
      obtain ⟨reason, rfl⟩ := b.clip_error hclip
      exact .inr ⟨_, host, rfl, nofun, rfl, .refl host.files⟩
    | ok clip =>
      simp only [Except.bind]
      obtain ⟨reason, hgive⟩ | hgive := host.clipboard.give_cases clip
      · rw [hgive]
        exact .inr ⟨.clipboard reason, host, rfl, nofun, rfl, .refl host.files⟩
      · rw [hgive]
        exact .inl ⟨none, _, rfl, rfl, clip, hshown clip hclip, rfl⟩
  | file path =>
    unfold deliver
    dsimp only
    obtain ⟨made, -, hsame, ⟨failing, fault, hdone⟩ | ⟨files, hwrite, hdone⟩⟩ :=
      b.writeTo_cases host.files path
    · rw [hdone]
      exact .inr ⟨.file failing fault, _, rfl, nofun, rfl, hsame⟩
    · obtain ⟨hread, place, hlocate, hothers⟩ := FileTree.wrote_of_write hwrite
      rw [hdone]
      exact .inl ⟨some (b.target path), _, rfl, rfl, hread, place, hlocate,
        fun other hother => (hsame other).trans (hothers other hother)⟩

end Blob

theorem encodePicture_error {tools : Tools} {picture : Picture} {fault : ExportFault}
    (h : encodePicture tools picture = .error fault) : ∃ reason, fault = .badContent reason := by
  unfold encodePicture at h
  split at h
  · cases h
  · split at h
    · cases h
    · exact ⟨_, (Except.error.inj h).symm⟩

/-- A document does not become the file of a picture if it cannot be read, if the picture is too
large, or if it cannot be written. -/
theorem rasterize_error {tools : Tools} {fonts : FontCache} {svg : String} {scale : Single}
    {fill : Fill} {fault : ExportFault} (h : rasterize tools fonts svg scale fill = .error fault) :
    (∃ reason, fault = .badMarkup reason) ∨ (∃ size, fault = .tooLarge size) ∨
      ∃ reason, fault = .badContent reason := by
  unfold rasterize at h
  obtain hread | ⟨drawing, -, h⟩ := bind_eq_error h
  · obtain ⟨reason, rfl⟩ := mapError_eq_error hread
    exact .inl ⟨reason, rfl⟩
  obtain hsize | ⟨size, -, h⟩ := bind_eq_error h
  · obtain ⟨size, rfl⟩ := mapError_eq_error hsize
    exact .inr (.inl ⟨size, rfl⟩)
  dsimp only at h
  split at h
  · exact .inr (.inl ⟨size, (Except.error.inj h).symm⟩)
  · obtain hencode | ⟨content, -, h⟩ := bind_eq_error h
    · exact .inr (.inr (encodePicture_error hencode))
    · cases h

namespace ExportJob

variable (job : ExportJob) (settings : Settings) (host : Host)

theorem clip_blob {b : Blob} {clip : Clip} (h : (job.blob settings host).1 = .ok b)
    (hclip : b.clip host.tools = .ok clip) : b.Shown host.tools clip := by
  obtain ⟨-, text, rfl⟩ | ⟨-, content, rfl⟩ := job.blob_cases settings host h
  · have htext : (FileContent.ofText text).text? = some text := Text.ofUtf8?_utf8 text
    simp only [Blob.clip, htext, Except.ok.injEq] at hclip
    exact hclip ▸ .text text
  · simp only [Blob.clip] at hclip
    cases hread : host.tools.decode content with
    | error reason =>
      rw [hread] at hclip
      cases hclip
    | ok picture =>
      rw [hread] at hclip
      exact Except.ok.inj hclip ▸ .pixels content picture hread

/-- Where there is a diagram, it is never for want of one that an export cannot be made. -/
theorem blob_error {fault : ExportFault} (h : (job.blob settings host).1 = .error fault) :
    fault = .noDiagram ↔ job.scene = none := by
  unfold blob at h
  cases hscene : job.scene with
  | none =>
    rw [hscene] at h
    simpa using (Except.error.inj h).symm
  | some scene =>
    rw [hscene] at h
    dsimp only at h
    cases hformat : job.format with
    | svg =>
      rw [hformat] at h
      cases h
    | png =>
      rw [hformat] at h
      dsimp only at h
      split at h
      case h_1 failure hfailure =>
        obtain rfl := Except.error.inj h
        obtain ⟨_, rfl⟩ | ⟨_, rfl⟩ | ⟨_, rfl⟩ := rasterize_error hfailure <;> simp
      case h_2 => cases h

theorem scene_of_blob {b : Blob} (h : (job.blob settings host).1 = .ok b) : job.scene ≠ none := by
  intro hscene
  unfold blob at h
  rw [hscene] at h
  cases h

/-- An export up to its notice: what is exported is made and delivered. -/
def attempt : Except ExportFault (Option String) × Host :=
  let (blob, host) := job.blob settings host
  match blob with
  | .error fault => (.error fault, host)
  | .ok blob => blob.deliver job.destination host

theorem run_eq :
    job.run settings host = (match (job.attempt settings host).1 with
      | .ok _ => job.done settings.lang.phrases
      | .error fault => failed settings.lang.phrases fault, (job.attempt settings host).2) := by
  unfold run attempt
  obtain ⟨made, host⟩ := job.blob settings host
  cases made with
  | error fault => rfl
  | ok b =>
    dsimp only
    obtain ⟨delivered, after⟩ := b.deliver job.destination host
    cases delivered <;> rfl

theorem attempt_cases :
    (∃ written after, job.attempt settings host = (.ok written, after) ∧
        ∃ b, (job.blob settings host).1 = .ok b ∧ b.format = job.format ∧
          b.Delivered host after job.destination) ∨
      ∃ fault after, job.attempt settings host = (.error fault, after) ∧
        (fault = .noDiagram ↔ job.scene = none) ∧ Undelivered host after := by
  obtain ⟨fonts, log, hhost⟩ := job.exists_blob_eq settings host
  simp only [attempt, hhost]
  cases hmade : (job.blob settings host).1 with
  | error fault => exact .inr ⟨fault, _, rfl, job.blob_error settings host hmade, rfl, .refl _⟩
  | ok b =>
    have hformat := job.format_blob settings host hmade
    have hshown (clip : Clip) (hclip : b.clip host.tools = .ok clip) :=
      job.clip_blob settings host hmade hclip
    obtain ⟨written, after, hdone, hdelivered⟩ | ⟨fault, after, hdone, hfault, hnone⟩ :=
      b.deliver_cases { host with fonts, log } hshown job.destination
    · refine .inl ⟨written, after, hdone, b, rfl, hformat, ?_⟩
      cases hdestination : job.destination <;> exact hdestination ▸ hdelivered
    · exact .inr ⟨fault, after, hdone, by simp [hfault, job.scene_of_blob settings host hmade],
        hnone.clipboard, hnone.files⟩

/-- An export delivers all or nothing, whatever its tools do and wherever they fail. If all its steps
succeed, it says so, what it made in the format asked for is delivered once, to the clipboard or to
the one file, and nothing else is. If any step fails, it warns that there is no diagram, or tells the
error if there is one, and nothing was delivered. -/
theorem run_all_or_nothing :
    match (job.attempt settings host).1 with
    | .ok _ => (job.run settings host).1.level = .info ∧
        ∃ b, (job.blob settings host).1 = .ok b ∧ b.format = job.format ∧
          b.Delivered host (job.run settings host).2 job.destination
    | .error _ =>
        ((job.run settings host).1.level = .warning ∧ job.scene = none ∨
          (job.run settings host).1.level = .error ∧ job.scene ≠ none) ∧
        Undelivered host (job.run settings host).2 := by
  rw [run_eq]
  obtain ⟨written, after, hdone, b, hmade, hformat, hdelivered⟩ |
    ⟨fault, after, hdone, hfault, hnone⟩ := job.attempt_cases settings host
  · rw [hdone]
    exact ⟨rfl, b, hmade, hformat, hdelivered⟩
  · rw [hdone]
    refine ⟨?_, hnone⟩
    cases fault with
    | noDiagram => exact .inl ⟨rfl, hfault.mp rfl⟩
    | _ => exact .inr ⟨rfl, fun hscene => nomatch hfault.mpr hscene⟩

end ExportJob

theorem files_copyText (text done : String) (settings : Settings) (host : Host) :
    (copyText text done settings host).2.files = host.files := by
  unfold copyText
  split <;> rfl

end DiagramDesk
