import DiagramDesk.Codec.Base64
import DiagramDesk.Settings

/-! Font files and the cache that keeps them for a session. Asking for a file has two steps, each
of which happens at once: a claim, which either answers or marks the file as being fetched, and a
settlement, which records what the fetch brought. Between the two the cache is free for others. A
file that was fetched is kept; a failure is remembered for a while, so that a host which does not
answer is not asked again and again. -/
namespace DiagramDesk

open Text

inductive FetchError where
  | request (url message : String)
  | unsupported (url : String)
  deriving DecidableEq, Repr

def FetchError.message : FetchError → String
  | request url message => "request for " ++ url ++ " failed: " ++ message
  | unsupported url => "unsupported font url: " ++ url

/-- Whether a network fetcher asks for an address at all. -/
def isFetchable (url : String) : Bool :=
  startsWith url.toList "https://".toList || startsWith url.toList "http://".toList

structure FontFile where
  url : String
  bytes : List UInt8
  deriving DecidableEq, Repr

namespace FontFile

/-- The media type of a file by the ending of its path, without query and fragment. -/
def mimeOf (url : String) : String :=
  let path := (url.toList.takeWhile fun c => c != '?' && c != '#').map lowerAscii
  if endsWith path ".woff2".toList then "font/woff2"
  else if endsWith path ".woff".toList then "font/woff"
  else if endsWith path ".ttf".toList then "font/ttf"
  else "font/truetype"

def mime (f : FontFile) : String := mimeOf f.url

/-- The file as an address that holds its content. -/
def dataUri (f : FontFile) : String :=
  "data:" ++ f.mime ++ ";base64," ++ String.ofList (Base64.encodePadded .standard f.bytes)

def cssFormat (f : FontFile) : String := match f.mime with
  | "font/woff2" => "woff2"
  | "font/woff" => "woff"
  | _ => "truetype"

/-- Whether the file is in a format that can be drawn with directly. -/
def isSfnt (f : FontFile) : Bool :=
  [[0, 1, 0, 0], "OTTO".toList.map (UInt8.ofNat ·.toNat),
    "true".toList.map (UInt8.ofNat ·.toNat)].contains (f.bytes.take 4)

end FontFile

inductive CacheEntry where
  | ready (file : FontFile)
  | failed (since : Nat)
  | fetching
  deriving DecidableEq, Repr

inductive Claim where
  /-- The file is here. -/
  | ready (file : FontFile)
  /-- The last fetch failed not long ago. -/
  | refused
  /-- The file is being fetched. -/
  | busy
  /-- It is for the one who asked to fetch the file. -/
  | granted
  deriving DecidableEq, Repr

abbrev CacheEntries := List (String × CacheEntry)

namespace CacheEntries

/-- How long a failure is remembered, in milliseconds. -/
def retryAfter : Nat := 60000

def entry? (es : CacheEntries) (url : String) : Option CacheEntry :=
  (List.find? (fun e => e.1 = url) es).map (·.2)

def set (es : CacheEntries) (url : String) (entry : CacheEntry) : CacheEntries :=
  match es with
  | [] => [(url, entry)]
  | e :: rest => if e.1 = url then (url, entry) :: rest else e :: set rest url entry

def claim (es : CacheEntries) (now : Nat) (url : String) : Claim × CacheEntries :=
  match es.entry? url with
  | some (.ready file) => (.ready file, es)
  | some .fetching => (.busy, es)
  | some (.failed since) =>
    if now - since < retryAfter then (.refused, es) else (.granted, es.set url .fetching)
  | none => (.granted, es.set url .fetching)

def settle (es : CacheEntries) (now : Nat) (url : String) (bytes : Option (List UInt8)) :
    CacheEntries :=
  es.set url (match bytes with
    | some bytes => .ready ⟨url, bytes⟩
    | none => .failed now)

def files (es : CacheEntries) : List FontFile :=
  es.filterMap fun e => match e.2 with
    | .ready file => some file
    | _ => none

end CacheEntries

/-- Fetches the file at an address, giving up after some seconds. -/
abbrev Fetcher := String → Nat → Except FetchError (List UInt8)

/-- A cache with its fetcher, its clock, and the requests made so far. -/
structure FontCache where
  fetch : Fetcher
  clock : Nat := 0
  entries : CacheEntries := []
  requests : List (String × Nat) := []

namespace FontCache

/-- The seconds a fetch may take, for an export and ahead of a rendering. -/
def exportTimeout : Nat := 10
def preloadTimeout : Nat := 3

/-- Asks for a file and fetches it if the claim says so. Where nobody else asks at the same time,
no claim finds a file being fetched. -/
def lookup (c : FontCache) (url : String) (timeout : Nat) : Option FontFile × FontCache :=
  match c.entries.claim c.clock url with
  | (.ready file, _) => (some file, c)
  | (.refused, _) => (none, c)
  | (.busy, _) => (none, c)
  | (.granted, entries) =>
    let bytes := (c.fetch url timeout).toOption
    (bytes.map fun bytes => ⟨url, bytes⟩,
      { c with
        entries := entries.settle c.clock url bytes
        requests := c.requests ++ [(url, timeout)] })

def get (c : FontCache) (url : String) : Option FontFile × FontCache := c.lookup url exportTimeout

def cached (c : FontCache) (url : String) : Option FontFile :=
  match c.entries.entry? url with
  | some (.ready file) => some file
  | _ => none

def preload (c : FontCache) (font : HandFont) : Bool × FontCache :=
  match font.source? with
  | none => (false, c)
  | some url =>
    let (file, c) := c.lookup url preloadTimeout
    (file.isSome, c)

def files (c : FontCache) : List FontFile := c.entries.files

def report (c : FontCache) (request : String × Nat) : String :=
  match c.fetch request.1 request.2 with
  | .ok bytes => "ok " ++ request.1 ++ " " ++ toString bytes.length ++ " bytes"
  | .error fault => "failed " ++ request.1 ++ ": " ++ fault.message

end FontCache

end DiagramDesk
