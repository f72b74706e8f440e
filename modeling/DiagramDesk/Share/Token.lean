import DiagramDesk.Text.Trim
import DiagramDesk.Text.Utf8
import DiagramDesk.Codec.Base64
import DiagramDesk.Codec.Zlib

/-! Share tokens: the source of a diagram as text that fits into a link. A token is written as a
compressed stream in the alphabet for links, without padding. Reading also takes the standard
alphabet, padding, blanks and sources that were never compressed. -/
namespace DiagramDesk.Token

open Text

inductive Fault where
  | empty
  | base64 (fault : Base64.Fault)
  | utf8 (fault : Utf8Fault)
  deriving DecidableEq, Repr

def Fault.message : Fault → String
  | empty => "share token is empty"
  | base64 fault => "share token is not valid base64: " ++ fault.message
  | utf8 _ => "share token does not hold UTF-8 text"

def encode (z : Zlib.Compressor) (source : String) : String :=
  String.ofList (Base64.encode .urlSafe (z.compress (utf8 source.toList)))

/-- A source as plain base64 in the standard alphabet, for readers that know nothing else. -/
def encodePlain (source : String) : String :=
  String.ofList (Base64.encodePadded .standard (utf8 source.toList))

/-- A character of a token in the alphabet for links. A space is a plus sign that went through a
query; padding and other blanks are dropped. -/
def normalizeChar (c : Char) : Option Char :=
  if c = '+' ∨ c = ' ' then some '-'
  else if c = '/' then some '_'
  else if c = '=' ∨ isBlank c then none
  else some c

def normalize (token : List Char) : List Char := token.filterMap normalizeChar

/-- The bytes a token stands for: the content of a stream, or the bytes themselves if they are
not a stream that can be expanded. -/
def payload (token : List Char) : Except Fault (List UInt8) :=
  let symbols := normalize token
  if symbols.isEmpty then .error .empty
  else match Base64.decode .urlSafe (utf8 symbols) with
    | .error fault => .error (.base64 fault)
    | .ok bytes => .ok ((Zlib.expand? bytes).getD bytes)

def decode (token : String) : Except Fault String :=
  match payload token.toList with
  | .error fault => .error fault
  | .ok bytes => match ofUtf8? bytes with
    | some text => .ok text
    | none => .error (.utf8 ((utf8Fault? bytes).getD ⟨0, none⟩))

end DiagramDesk.Token
