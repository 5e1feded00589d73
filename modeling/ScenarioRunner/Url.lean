import ScenarioRunner.Text.Basic

/-! Web addresses: which texts are usable ones, and how one is recovered from prose. A usable address
has the scheme `http` or `https` and a host part that is not empty and well formed. -/
namespace ScenarioRunner.Url

/-- A control character or a space; they are dropped at the start of an address. -/
def isPadding (c : Char) : Bool := c.toNat ≤ 0x20

/-- Dropped wherever it stands in an address. -/
def isIgnored (c : Char) : Bool := c == '\t' || c == '\n' || c == '\r'

def isSchemeChar (c : Char) : Bool := c.isAlphanum || c == '+' || c == '-' || c == '.'

/-- The address without what is dropped from it. -/
def cleaned (url : List Char) : List Char := (url.dropWhile isPadding).filter (!isIgnored ·)

/-- The scheme before the first colon, in lower case, and what follows the colon. A scheme starts
with a letter. -/
def scheme? (url : List Char) : Option (List Char × List Char) :=
  match url, url.dropWhile (· != ':') with
  | c :: _, _ :: rest =>
    let scheme := url.takeWhile (· != ':')
    if c.isAlpha && scheme.all isSchemeChar then some (scheme.map Char.toLower, rest) else none
  | _, _ => none

def endsHost (c : Char) : Bool := c == '/' || c == '?' || c == '#'

/-- The part between two slashes and the path, the query or the fragment. -/
def host : List Char → List Char
  | '/' :: '/' :: rest => rest.takeWhile (!endsHost ·)
  | _ => []

/-- The parts of a text between the occurrences of a character. -/
def splitAt (sep : Char) (s : List Char) : List (List Char) := s.splitOn sep

def isHex (c : Char) : Bool := c.isDigit || ('a' ≤ c && c ≤ 'f') || ('A' ≤ c && c ≤ 'F')

/-- A decimal number of at most three digits, without leading zeros, up to 255. -/
def isOctet (s : List Char) : Bool :=
  !s.isEmpty && s.length ≤ 3 && s.all Char.isDigit && (s.length == 1 || s.head? != some '0') &&
    s.foldl (fun n c => 10 * n + (c.toNat - '0'.toNat)) 0 ≤ 255

def isDottedQuad (s : List Char) : Bool :=
  let parts := splitAt '.' s
  parts.length == 4 && parts.all isOctet

def isHextet (s : List Char) : Bool := !s.isEmpty && s.length ≤ 4 && s.all isHex

/-- Eight groups of hexadecimal digits between colons. One run of groups may be left out, with two
colons in its place, and a dotted quad may stand for the last two groups. -/
def isIpv6 (s : List Char) : Bool :=
  let parts := splitAt ':' s
  if parts.length < 3 then false
  else
    let last := parts.getLastD []
    let quad := last.contains '.'
    let parts := if quad then parts.dropLast ++ [['0'], ['0']] else parts
    let inner := (parts.drop 1).dropLast
    let gaps := inner.countP List.isEmpty
    let headless := (parts.headD []).isEmpty
    let tailless := (parts.getLastD []).isEmpty
    let groups := parts.filter fun part => !part.isEmpty
    if quad && !isDottedQuad last || 9 < parts.length || !groups.all isHextet then false
    else if gaps == 0 then parts.length == 8 && !headless && !tailless
    else
      -- an empty first or last group is only right beside the gap
      gaps == 1 && groups.length ≤ 7 && (!headless || (inner.headD []).isEmpty) &&
        (!tailless || (inner.getLastD []).isEmpty)

/-- An address of a later version: the letter `v`, a hexadecimal version, a point and some text on
one line. -/
def isLaterVersion : List Char → Bool
  | 'v' :: rest =>
    let version := rest.takeWhile isHex
    match rest.dropWhile isHex with
    | '.' :: text => !version.isEmpty && !text.isEmpty && !text.contains '\n'
    | _ => false
  | _ => false

/-- What may stand between brackets in a host. -/
def isBracketed (s : List Char) : Bool :=
  if s.head? == some 'v' then isLaterVersion s
  else
    let address := s.takeWhile (· != '%')
    let zone := s.drop address.length
    isIpv6 address && !s.contains '/' && (zone.isEmpty || (zone.length != 1 && !(zone.drop 1).contains '%'))

/-- Characters whose compatibility form holds one of `/`, `?`, `#`, `@` and `:`. -/
def deceptive : List Nat :=
  [0x2047, 0x2048, 0x2049, 0x2100, 0x2101, 0x2105, 0x2106, 0x2A74, 0xFE13, 0xFE16, 0xFE55, 0xFE56,
   0xFE5F, 0xFE6B, 0xFF03, 0xFF0F, 0xFF1A, 0xFF1F, 0xFF20]

/-- A host with brackets holds an address between the first pair of them, and no host holds
deceptive characters. -/
def isSoundHost (host : List Char) : Bool :=
  let bracketsFit :=
    if host.contains '[' || host.contains ']' then
      host.contains '[' && host.contains ']' &&
        isBracketed (((host.dropWhile (· != '[')).drop 1).takeWhile (· != ']'))
    else true
  bracketsFit && !host.any fun c => deceptive.contains c.toNat

/-- A usable web address. -/
def isValid (url : List Char) : Bool :=
  match scheme? (cleaned url) with
  | some (scheme, rest) =>
    (scheme == "http".toList || scheme == "https".toList) && !(host rest).isEmpty &&
      isSoundHost (host rest)
  | none => false

def quotes : List Char := ['\x60', '\'', '"']

/-- The inside of a text that starts and ends with the same quote, trimmed. -/
def unwrap (value : List Char) : List Char :=
  match quotes.find? fun q => 2 ≤ value.length && value.head? == some q && value.getLast? == some q with
  | some _ => Text.trim ((value.drop 1).dropLast)
  | none => value

/-- May stand in an address that is embedded in prose. -/
def isEmbedded (c : Char) : Bool :=
  !(Text.isBlank c || c == '\'' || c == '"' || c == '\x60' || c == ')')

/-- The address that starts right here: its scheme, and all that may belong to it. -/
def startingHere? (s : List Char) : Option (List Char) :=
  let from? (scheme : List Char) :=
    if scheme.isPrefixOf s then
      let rest := (s.drop scheme.length).takeWhile isEmbedded
      if rest.isEmpty then none else some (scheme ++ rest)
    else none
  from? "https://".toList <|> from? "http://".toList

/-- The first address in a text. -/
def embedded? : List Char → Option (List Char)
  | [] => none
  | c :: rest => startingHere? (c :: rest) <|> embedded? rest

/-- The address in a text, or the text itself if it holds no usable one. -/
def recover (value : List Char) : List Char :=
  match embedded? (unwrap (Text.trim value)) with
  | some url => if isValid url then url else value
  | none => value

end ScenarioRunner.Url

namespace ScenarioRunner

def isValidUrl (url : String) : Bool := Url.isValid url.toList

/-- Recovers a clean address from a captured text such as quoted prose. -/
def sanitizeUrl (value : String) : String := String.ofList (Url.recover value.toList)

end ScenarioRunner
