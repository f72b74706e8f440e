import DiagramDesk.Export.Exporter
import DiagramDesk.Export.Standard
import DiagramDesk.Files.Change
import DiagramDesk.Proofs.Codec.Zlib
import DiagramDesk.Proofs.Except
import DiagramDesk.Proofs.Text.Scan

/-!
A picture that is written as a file is read back from it: with its size, and with the same bytes for
its pixels. Its rows stand in one block as they are, so their length is all that is asked of it. The
tools at hand keep a picture unwritten; what they draw for an export comes back from its file.
-/
namespace DiagramDesk

namespace Png

/-! ### Blocks -/

/-- Numbers in four bytes stay below this one. -/
def fourBound : Nat := 0x100000000

theorem length_four (n : Nat) : (four n).length = 4 := rfl

theorem numberOf_four {n : Nat} (h : n < fourBound) : numberOf (four n) = n := by
  simp only [fourBound] at h
  simp only [numberOf, four, List.foldl_cons, List.foldl_nil, UInt8.toNat_ofNat',
    Nat.shiftRight_eq_div_pow]
  omega

theorem blocks_nil : blocks [] = ([], []) := by
  rw [blocks]
  simp

/-- A block is read up to the bytes behind it, and its checksum is right. -/
theorem blocks_block {name : String} {content : List UInt8} (rest : List UInt8)
    (hname : (label name).length = 4) (hlength : content.length < fourBound) :
    blocks (block name content ++ rest) =
      (⟨label name, content, true⟩ :: (blocks rest).1, (blocks rest).2) := by
  obtain ⟨sum, hsum⟩ : ∃ sum, sum = (checksum (label name ++ content)).toNat := ⟨_, rfl⟩
  obtain ⟨bytes, hbytes⟩ : ∃ bytes, bytes = block name content ++ rest := ⟨_, rfl⟩
  have hparts : bytes = four content.length ++ (label name ++ (content ++ (four sum ++ rest))) := by
    simp [hbytes, hsum, block, List.append_assoc]
  have hread : numberOf (bytes.take 4) = content.length := by
    rw [hparts, List.take_left' (length_four _), numberOf_four hlength]
  have hdrop : bytes.drop 4 = label name ++ (content ++ (four sum ++ rest)) := by
    rw [hparts, List.drop_left' (length_four _)]
  have hdrop8 : bytes.drop 8 = content ++ (four sum ++ rest) := by
    rw [← List.drop_drop (i := 4) (j := 4), hdrop, List.drop_left' hname]
  have hdropContent : bytes.drop (8 + content.length) = four sum ++ rest := by
    rw [← List.drop_drop, hdrop8, List.drop_left' rfl]
  have hdropAll : bytes.drop (12 + content.length) = rest := by
    rw [show 12 + content.length = 8 + content.length + 4 by omega, ← List.drop_drop,
      hdropContent, List.drop_left' (length_four _)]
  have hsound : numberOf (four sum) = sum := numberOf_four (hsum ▸ UInt32.toNat_lt _)
  have hlong : ¬ bytes.length < 12 + content.length := by
    rw [hparts]
    simp only [List.length_append, hname, length_four]
    omega
  rw [← hbytes, blocks]
  simp only [hread, if_neg hlong, hdrop, hdrop8, hdropContent, hdropAll]
  rw [List.take_left' hname, List.take_left' rfl, List.take_left' (length_four _), hsound, hsum]
  simp

/-! ### Rows -/

/-- A row of which nothing was taken off is restored as it is. -/
theorem restore?_zero (stride : Nat) (above : Array UInt8) (row : List UInt8) :
    restore? stride 0 above row = some row.toArray := by
  have hpush : restore? stride 0 above row = row.foldlM (fun out b => pure (out.push b)) #[] := by
    simp [restore?, taken?]
  rw [hpush, List.foldlM_pure, List.foldl_push_eq_append']
  simp

/-- Rows of the right length are read up to the bytes behind them. -/
theorem rows?_marked (h : Header) (rest : List UInt8) (rs : List (List UInt8))
    (hlength : ∀ row ∈ rs, row.length = h.rowBytes) (above : Array UInt8) :
    rows? h rs.length above (rs.flatMap (0 :: ·) ++ rest) = some (rs.map List.toArray, rest) := by
  induction rs generalizing above with
  | nil => rfl
  | cons row rs ih =>
    have hrow : row.length = h.rowBytes := hlength row List.mem_cons_self
    have hmore := ih (fun row hmem => hlength row (List.mem_cons_of_mem _ hmem))
    have hlong : ¬ (row ++ (rs.flatMap (0 :: ·) ++ rest)).length < h.rowBytes := by
      rw [List.length_append, hrow]
      omega
    rw [List.flatMap_cons, List.cons_append, List.cons_append, List.append_assoc,
      List.length_cons, rows?, if_neg hlong, List.take_left' hrow, List.drop_left' hrow]
    simp [restore?_zero, hmore]

/-! ### Pixels -/

/-- The four bytes of a pixel. -/
def pixelBytes (c : Pixel) : List UInt8 :=
  [UInt8.ofNat c.red, UInt8.ofNat c.green, UInt8.ofNat c.blue, UInt8.ofNat c.alpha]

def line (p : Picture) (y : Nat) : List UInt8 :=
  (List.range p.width).flatMap fun x => pixelBytes (p.pixel x y)

variable (p : Picture)

theorem rows_eq : rows p = ((List.range p.height).map (line p)).flatMap (0 :: ·) := by
  rw [List.flatMap_map]
  rfl

theorem length_line (y : Nat) : (line p y).length = p.width * 4 := by
  simp [line, pixelBytes, List.length_flatMap]

theorem length_rows : (rows p).length = p.height * (p.width * 4 + 1) := by
  simp [rows_eq, List.length_flatMap, Function.comp_def, length_line]

/-- A pixel of a row stands at four times its column. -/
theorem line_getElem? {x i : Nat} (y : Nat) (hx : x < p.width) (hi : i < 4) :
    (line p y)[x * 4 + i]? = (pixelBytes (p.pixel x y))[i]? := by
  have hflat (l : List Nat) (k : Nat) :
      (l.flatMap fun x => pixelBytes (p.pixel x y))[k * 4 + i]? =
        l[k]?.bind fun x => (pixelBytes (p.pixel x y))[i]? := by
    induction l generalizing k with
    | nil => simp
    | cons x l ih =>
      rw [List.flatMap_cons]
      cases k with
      | zero =>
        rw [List.getElem?_append_left (by simp [pixelBytes]; omega)]
        simp
      | succ k =>
        rw [List.getElem?_append_right (by simp [pixelBytes]; omega), List.getElem?_cons_succ,
          ← ih k]
        congr 1
        simp [pixelBytes]
        omega
  rw [line, hflat, List.getElem?_range hx]
  rfl

/-- With one byte for each, the numbers of a pixel are the bytes of the row. -/
theorem sample_of_depth {h : Header} (hdepth : h.depth = 8) (row : List UInt8) (i : Nat) :
    sample h row.toArray i = (row[i]?.getD 0).toNat := by
  rw [sample, hdepth, if_neg (by decide)]
  simp only [Nat.mul_div_cancel i (by decide : 0 < 8), Nat.mul_mod_left]
  simp

theorem scaled_of_depth {h : Header} (hdepth : h.depth = 8) {n : Nat} (hn : n < 256) :
    h.scaled n = n := by
  have hhighest : 1 <<< 8 - 1 = 255 := rfl
  rw [Header.scaled, hdepth, hhighest, Pixel.level]
  omega

/-! ### Files -/

/-- What is told of a picture that is written. -/
def headerOf : Header := ⟨p.width, p.height, 8, 6, false⟩

theorem header?_encode (hwidth : 0 < p.width) (hheight : 0 < p.height)
    (hacross : p.width < fourBound) (hdown : p.height < fourBound) :
    header? (four p.width ++ four p.height ++ [8, 6, 0, 0, 0]) = some (headerOf p) := by
  have hrest : (four p.width ++ four p.height ++ [8, 6, 0, 0, 0]).drop 8 = [8, 6, 0, 0, 0] := rfl
  have hfirst : (four p.width ++ four p.height ++ [8, 6, 0, 0, 0]).take 4 = four p.width := rfl
  have hsecond : ((four p.width ++ four p.height ++ [8, 6, 0, 0, 0]).drop 4).take 4 =
      four p.height := rfl
  rw [header?, hrest]
  simp only [hfirst, hsecond, numberOf_four hacross, numberOf_four hdown]
  rw [if_pos ⟨hwidth, hheight, by decide, by decide⟩]
  rfl

/-- The rows of a picture that is written are read as one share. -/
theorem shareRows?_rows (hwidth : 0 < p.width) (hheight : 0 < p.height) :
    shareRows? (headerOf p) (headerOf p).shares (rows p) =
      some [(⟨0, 0, 1, 1⟩, (((List.range p.height).map (line p)).map List.toArray).toArray)] := by
  have hshares : (headerOf p).shares = [⟨0, 0, 1, 1⟩] := rfl
  have hown : (⟨0, 0, 1, 1⟩ : Share).header (headerOf p) = headerOf p := by
    simp [Share.header, headerOf]
  have hbytes : (headerOf p).rowBytes = p.width * 4 := by
    simp only [Header.rowBytes, headerOf, Header.channels]
    omega
  have hsize : ¬ ((headerOf p).width = 0 ∨ (headerOf p).height = 0) := by
    simp only [headerOf]
    omega
  have hread := rows?_marked (headerOf p) [] ((List.range p.height).map (line p))
    (fun row hmem => by
      obtain ⟨y, -, rfl⟩ := List.mem_map.mp hmem
      rw [length_line, hbytes]) #[]
  rw [List.append_nil, ← rows_eq, List.length_map, List.length_range] at hread
  rw [hshares, shareRows?, hown, if_neg hsize, show (headerOf p).height = p.height from rfl, hread]
  rfl

/-- The blocks of a file: the head, the rows, and the end. -/
theorem blocks_encode (hsize : (Zlib.stored (rows p)).length < fourBound) :
    ∃ body, Text.after? signature (encode p) = some body ∧ blocks body =
      ([⟨label "IHDR", four p.width ++ four p.height ++ [8, 6, 0, 0, 0], true⟩,
        ⟨label "IDAT", Zlib.stored (rows p), true⟩, ⟨label "IEND", [], true⟩], []) := by
  refine ⟨block "IHDR" (four p.width ++ four p.height ++ [8, 6, 0, 0, 0]) ++
      (block "IDAT" (Zlib.stored (rows p)) ++ (block "IEND" [] ++ [])), ?_, ?_⟩
  · rw [encode, List.append_assoc, List.append_assoc, Text.after?_append, List.append_nil]
  · have hhead : (four p.width ++ four p.height ++ [8, 6, 0, 0, 0]).length < fourBound := by
      simp [length_four, fourBound]
    rw [blocks_block _ rfl hhead, blocks_block _ rfl hsize, blocks_block _ rfl (by decide),
      blocks_nil]

/-- A pixel that is read has the bytes that were written for it. -/
theorem pixelBytes_sample {x : Nat} (y : Nat) (hx : x < p.width) :
    pixelBytes (Head.pixel { header := headerOf p } fun i =>
      sample (headerOf p) (line p y).toArray (x * 4 + i)) = pixelBytes (p.pixel x y) := by
  have hbyte (i : Nat) (hi : i < 4) :
      (headerOf p).scaled (sample (headerOf p) (line p y).toArray (x * 4 + i)) =
        ((pixelBytes (p.pixel x y))[i]?.getD 0).toNat := by
    rw [sample_of_depth rfl, line_getElem? p y hx hi, scaled_of_depth rfl (UInt8.toNat_lt _)]
  have hpixel (numbers : Nat → Nat) : Head.pixel { header := headerOf p } numbers =
      ⟨(headerOf p).scaled (numbers 0), (headerOf p).scaled (numbers 1),
        (headerOf p).scaled (numbers 2), (headerOf p).scaled (numbers 3)⟩ := rfl
  rw [hpixel, hbyte 0 (by decide), hbyte 1 (by decide), hbyte 2 (by decide), hbyte 3 (by decide)]
  simp only [pixelBytes, List.getElem?_cons_zero, List.getElem?_cons_succ, Option.getD_some,
    UInt8.ofNat_toNat]

/-- The sides of a picture whose rows fit a block. -/
theorem sides_lt (hwidth : 0 < p.width) (hheight : 0 < p.height)
    (hsize : (Zlib.stored (rows p)).length < fourBound) :
    p.width < fourBound ∧ p.height < fourBound := by
  have hrows := (Zlib.length_stored_bounds (rows p)).1
  rw [length_rows] at hrows
  have hacross := Nat.le_mul_of_pos_left (p.width * 4 + 1) hheight
  have hdown : p.height ≤ p.height * (p.width * 4 + 1) :=
    Nat.le_mul_of_pos_right _ (Nat.succ_pos _)
  omega

/-- A picture with the pixels that stand in the rows of a file. -/
def reread : Picture where
  width := p.width
  height := p.height
  pixel x y := Head.pixel { header := headerOf p } fun i =>
    sample (headerOf p) (((List.range p.height).map (line p))[y]?.getD []).toArray (x * 4 + i)

theorem bytes_reread : (reread p).bytes = p.bytes := by
  have hline (y : Nat) (hy : y < p.height) : line (reread p) y = line p y := by
    refine List.flatMap_congr fun x hx => ?_
    have hrow : ((List.range p.height).map (line p))[y]?.getD [] = line p y := by
      simp [hy]
    simp only [reread, hrow]
    exact pixelBytes_sample p y (List.mem_range.mp hx)
  exact List.flatMap_congr fun y hy => hline y (List.mem_range.mp hy)

/-- A picture that is written is read again. -/
theorem decode?_encode (hwidth : 0 < p.width) (hheight : 0 < p.height)
    (hsize : (Zlib.stored (rows p)).length < fourBound) :
    decode? (encode p) = some (reread p) := by
  obtain ⟨hacross, hdown⟩ := sides_lt p hwidth hheight hsize
  obtain ⟨body, hbody, hblocks⟩ := blocks_encode p hsize
  obtain ⟨told, htold⟩ : ∃ told, told = four p.width ++ four p.height ++ [8, 6, 0, 0, 0] :=
    ⟨_, rfl⟩
  have hheader := header?_encode p hwidth hheight hacross hdown
  rw [← htold] at hblocks hheader
  have hcontent := Zlib.contentAhead?_of_decompress? (Zlib.decompress?_stored (rows p))
  have hshares := shareRows?_rows p hwidth hheight
  have hkind : (headerOf p).kind = 6 := rfl
  have hend : (label "IEND" == label "IDAT") = false := by decide
  rw [decode?, hbody]
  simp [hblocks, hheader, hcontent, hshares, hkind, hend, Share.has, Nat.mod_one, reread]
  refine ⟨rfl, rfl, ?_⟩
  funext x y
  cases (List.range p.height)[y]? <;> rfl

end Png

namespace Picture

variable {p : Picture}

/-- A file tells by its first bytes that it is one of these. -/
theorem read?_encode (hwidth : 0 < p.width) (hheight : 0 < p.height)
    (hsize : (Zlib.stored (Png.rows p)).length < Png.fourBound) :
    read? (Png.encode p) = some (Png.reread p) := by
  have hsigned : Bytes.holds (Png.encode p).toArray 0 Png.signature = true := by
    simp [Bytes.holds, Png.encode, List.append_assoc]
  rw [read?, if_pos hsigned, Png.decode?_encode p hwidth hheight hsize]

/-- The rows of a picture that can be read back fit a block. -/
theorem size_lt (hwidth : 0 < p.width) (hlimit : p.byteCount ≤ Tools.readBackLimit) :
    (Zlib.stored (Png.rows p)).length < Png.fourBound := by
  have hstored := (Zlib.length_stored_bounds (Png.rows p)).2
  have hmarks := Nat.le_mul_of_pos_left p.height hwidth
  have hrows : (Png.rows p).length = p.byteCount + p.height := by
    rw [Png.length_rows, byteCount, Nat.mul_add, Nat.mul_one, ← Nat.mul_assoc,
      Nat.mul_comm p.height]
  simp only [byteCount, Tools.readBackLimit, Png.fourBound] at *
  omega

end Picture

/-! ### What the tools at hand write -/

/-- It does not matter that a picture is kept unwritten: what is read back from the bytes of its file
has its size and its pixels. -/
theorem Tools.pixels_encoded {p : Picture} (hwidth : 0 < p.width) (hheight : 0 < p.height)
    (hlimit : p.byteCount ≤ Tools.readBackLimit) :
    ∃ q, Tools.pixels (.bytes (FileContent.picture p).encoded) = .ok q ∧
      q.width = p.width ∧ q.height = p.height ∧ q.bytes = p.bytes := by
  refine ⟨Png.reread p, ?_, rfl, rfl, Png.bytes_reread p⟩
  rw [FileContent.encoded, Tools.pixels,
    Picture.read?_encode hwidth hheight (Picture.size_lt hwidth hlimit)]

theorem PixelSize.target_pos {width height scale : Single} {size : PixelSize}
    (h : PixelSize.target width height scale = .ok size) : 0 < size.width ∧ 0 < size.height := by
  unfold PixelSize.target at h
  dsimp only at h
  split at h
  · cases h
  · cases h
    exact ⟨Nat.le_max_left 1 _, Nat.le_max_left 1 _⟩

section Rasterized

variable {fonts : FontCache} {svg : String} {scale : Single} {fill : Fill} {size : PixelSize}
  {content : FileContent}

/-- The file of a document is a picture of the size that is told. -/
theorem exists_picture_of_rasterize
    (h : rasterize Tools.standard fonts svg scale fill = .ok (size, content)) :
    ∃ p, content = .picture p ∧ p.width = size.width ∧ p.height = size.height ∧
      0 < p.width ∧ 0 < p.height := by
  unfold rasterize at h
  obtain ⟨drawing, hread, h⟩ := bind_eq_ok h
  obtain ⟨shown, hshown, h⟩ := bind_eq_ok h
  obtain ⟨hwidth, hheight⟩ := PixelSize.target_pos (mapError_eq_ok hshown)
  obtain ⟨boxes, rfl⟩ : ∃ boxes : BoxDrawing, boxes.drawing = drawing := by
    have hread := mapError_eq_ok hread
    dsimp only [Tools.standard] at hread
    split at hread
    · exact ⟨_, Except.ok.inj hread⟩
    · cases hread
  cases h
  exact ⟨boxes.paint size fill, rfl, rfl, rfl, hwidth, hheight⟩

/-- The pixels that are read back from a document's picture are the same before and after its file
is written. -/
theorem pixels_of_rasterize
    (h : rasterize Tools.standard fonts svg scale fill = .ok (size, content))
    (hlimit : size.width * size.height * 4 ≤ Tools.readBackLimit) :
    ∃ p q, Tools.pixels content = .ok p ∧ Tools.pixels (.bytes content.encoded) = .ok q ∧
      (p.width = size.width ∧ p.height = size.height) ∧
      q.width = p.width ∧ q.height = p.height ∧ q.bytes = p.bytes := by
  obtain ⟨p, rfl, hacross, hdown, hwidth, hheight⟩ := exists_picture_of_rasterize h
  have hcount : p.byteCount ≤ Tools.readBackLimit := by
    rwa [Picture.byteCount, hacross, hdown]
  obtain ⟨q, hq, hsame⟩ := Tools.pixels_encoded hwidth hheight hcount
  exact ⟨p, q, if_pos hcount, hq, ⟨hacross, hdown⟩, hsame⟩

end Rasterized

end DiagramDesk
