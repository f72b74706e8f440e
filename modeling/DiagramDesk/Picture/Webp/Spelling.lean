import DiagramDesk.Picture.Basic
import DiagramDesk.Picture.Webp.Codes

/-! Pixels as they are spelled one after the other: by their components, as a copy of pixels before
them, or by the place of a pixel that was kept. -/
namespace DiagramDesk.Webp

def parts (length n : Nat) : Nat := (length + (1 <<< n) - 1) >>> n

/-! ### Pixels that are kept -/

/-- Pixels that came before, each at a place that its components lead to. -/
structure Cache where
  width : Nat
  pixels : Array Pixel

namespace Cache

def none : Cache := ⟨0, #[]⟩

def place (c : Cache) (p : Pixel) : Nat :=
  let number := ((p.alpha * 256 + p.red) * 256 + p.green) * 256 + p.blue
  ((0x1E35A7BD * number) % 0x100000000) >>> (32 - c.width)

def keep (c : Cache) (p : Pixel) : Cache :=
  if c.pixels.isEmpty then c else { c with pixels := c.pixels.setIfInBounds (c.place p) p }

def read? (bits : List Bool) : Option (Cache × List Bool) := do
  let (told, bits) ← Bits.read? 1 bits
  if told = 0 then return (none, bits)
  else
    let (width, bits) ← Bits.read? 4 bits
    if width = 0 ∨ 11 < width then failure
    else return (⟨width, Array.replicate (1 <<< width) .clear⟩, bits)

end Cache

/-! ### Codes -/

structure Codes where
  green : PrefixCode
  red : PrefixCode
  blue : PrefixCode
  alpha : PrefixCode
  distance : PrefixCode

/-- The first symbols for lengths of copies and for kept pixels. -/
def firstCopy : Nat := 256
def firstKept : Nat := 280

def readCodes? (cache : Cache) (bits : List Bool) : Option (Codes × List Bool) := do
  let (green, bits) ← readCode? (firstKept + cache.pixels.size) bits
  let (red, bits) ← readCode? 256 bits
  let (blue, bits) ← readCode? 256 bits
  let (alpha, bits) ← readCode? 256 bits
  let (distance, bits) ← readCode? 40 bits
  return (⟨green, red, blue, alpha, distance⟩, bits)

def readAllCodes? (cache : Cache) : Nat → List Bool → Option (List Codes × List Bool)
  | 0, bits => some ([], bits)
  | n + 1, bits => do
    let (codes, bits) ← readCodes? cache bits
    let (more, bits) ← readAllCodes? cache n bits
    return (codes :: more, bits)

/-! ### Copies -/

def readAmount? (symbol : Nat) (bits : List Bool) : Option (Nat × List Bool) :=
  if symbol < 4 then some (symbol + 1, bits)
  else
    let width := (symbol - 2) / 2
    (Bits.read? width bits).map fun (offset, bits) =>
      (((2 + symbol % 2) <<< width) + offset + 1, bits)

/-- The nearest pixels, nearer ones first. A number tells the rows up times sixteen, and how far to
the left of the eighth pixel to the right. -/
def nearby : Array Nat := #[
  24, 7, 23, 25, 40, 6, 39, 41, 22, 26, 38, 42, 56, 5, 55, 57, 21, 27, 54, 58, 37, 43, 72, 4, 71,
  73, 20, 28, 53, 59, 70, 74, 36, 44, 88, 69, 75, 52, 60, 3, 87, 89, 19, 29, 86, 90, 35, 45, 68, 76,
  85, 91, 51, 61, 104, 2, 103, 105, 18, 30, 102, 106, 34, 46, 84, 92, 67, 77, 101, 107, 50, 62, 120,
  1, 119, 121, 83, 93, 17, 31, 100, 108, 66, 78, 118, 122, 33, 47, 117, 123, 49, 63, 99, 109, 82,
  94, 0, 116, 124, 65, 79, 16, 32, 98, 110, 48, 115, 125, 81, 95, 64, 114, 126, 97, 111, 80, 113,
  127, 96, 112]

/-- How many pixels back a copy begins. Small numbers name the nearest pixels, in rows of some
width. -/
def distance (width number : Nat) : Nat :=
  match nearby[number - 1]? with
  | some n => max 1 (n / 16 * width + 8 - n % 16)
  | none => number - nearby.size

def copied (back : Nat) : Nat → Cache → Array Pixel → Cache × Array Pixel
  | 0, cache, pixels => (cache, pixels)
  | n + 1, cache, pixels =>
    let p := pixels[pixels.size - back]?.getD .clear
    copied back n (cache.keep p) (pixels.push p)

/-! ### Pixels -/

def readPixels? (width : Nat) (codesAt : Nat → Option Codes) (left : Nat) (cache : Cache)
    (pixels : Array Pixel) (bits : List Bool) : Option (Array Pixel × List Bool) :=
  match left with
  | 0 => some (pixels, bits)
  | left + 1 => do
    let codes ← codesAt pixels.size
    let (symbol, bits) ← codes.green.read? bits
    if symbol < firstCopy then
      let (red, bits) ← codes.red.read? bits
      let (blue, bits) ← codes.blue.read? bits
      let (alpha, bits) ← codes.alpha.read? bits
      let p : Pixel := ⟨red, symbol, blue, alpha⟩
      readPixels? width codesAt left (cache.keep p) (pixels.push p) bits
    else if symbol < firstKept then
      let (length, bits) ← readAmount? (symbol - firstCopy) bits
      let (symbol, bits) ← codes.distance.read? bits
      let (number, bits) ← readAmount? symbol bits
      let back := distance width number
      if pixels.size < back ∨ left + 1 < length then failure
      else
        let (cache, pixels) := copied back length cache pixels
        readPixels? width codesAt (left - (length - 1)) cache pixels bits
    else
      let p ← cache.pixels[symbol - firstKept]?
      readPixels? width codesAt left cache (pixels.push p) bits
termination_by left
decreasing_by
  · exact Nat.lt_succ_self _
  · exact Nat.lt_succ_of_le (Nat.sub_le _ _)
  · exact Nat.lt_succ_self _

def readPlain? (width height : Nat) (bits : List Bool) : Option (Array Pixel × List Bool) := do
  let (cache, bits) ← Cache.read? bits
  let (codes, bits) ← readCodes? cache bits
  readPixels? width (fun _ => some codes) (width * height) cache #[] bits

/-- Reads pixels whose codes a smaller picture may tell, by red and green of its pixels. -/
def readParted? (width height : Nat) (bits : List Bool) : Option (Array Pixel × List Bool) := do
  let (cache, bits) ← Cache.read? bits
  let (isParted, bits) ← Bits.read? 1 bits
  if isParted = 0 then
    let (codes, bits) ← readCodes? cache bits
    readPixels? width (fun _ => some codes) (width * height) cache #[] bits
  else
    let (n, bits) ← Bits.read? 3 bits
    let across := parts width (n + 2)
    let (told, bits) ← readPlain? across (parts height (n + 2)) bits
    let numbers := told.map fun p => p.red * 256 + p.green
    let (codes, bits) ← readAllCodes? cache (numbers.foldl max 0 + 1) bits
    let codes := codes.toArray
    let codesAt (i : Nat) : Option Codes := do
      let x := (i % width) >>> (n + 2)
      let y := (i / width) >>> (n + 2)
      codes[← numbers[y * across + x]?]?
    readPixels? width codesAt (width * height) cache #[] bits

end DiagramDesk.Webp
