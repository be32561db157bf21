import DataStaging.DomainName.Ascii
import DataStaging.Fault
import DataStaging.Service.NumericHost
import DataStaging.Text.Utf8

/-!
# The address of a service

Where a service is reached: the host and the port that a URL names. A URL is read as a browser reads
it, and its host and port are all that is kept.
-/

namespace DataStaging

/-- What is wrong with a text that names no service. -/
inductive AddressFlaw
  | relative
  | emptyHost
  | badName
  | badCharacter
  | badShortNumber
  | badLongNumber
  | badPort
  | noHost
  | noPort
deriving DecidableEq, Repr

def AddressFlaw.message : AddressFlaw → String
  | relative => "relative URL without a base"
  | emptyHost => "empty host"
  | badName => "invalid international domain name"
  | badCharacter => "invalid domain character"
  | badShortNumber => "invalid IPv4 address"
  | badLongNumber => "invalid IPv6 address"
  | badPort => "invalid port number"
  | noHost => "missing host"
  | noPort => "missing port"

/-- A host and a port. -/
structure Address where
  host : String
  port : Nat
deriving DecidableEq, Repr

namespace Address

/-- The text of an address. -/
def text (a : Address) : String := a.host ++ ":" ++ toString a.port

/-! ## Cutting a URL -/

/-- What stands before the first character of a kind, and the rest from there on. -/
def cutWhen (p : Char → Bool) (text : List Char) : List Char × List Char :=
  (text.takeWhile (fun c => !p c), text.dropWhile (fun c => !p c))

/-- Blanks and control characters around a URL do not belong to it. -/
def isOutside (c : Char) : Bool := c.toNat ≤ 0x20

/-- Characters that are passed over wherever they stand. -/
def isPassedOver (c : Char) : Bool := c = '\t' || c = '\n' || c = '\r'

/-- The characters of a URL that count. -/
def clean (text : List Char) : List Char :=
  let inside := ((text.dropWhile isOutside).reverse.dropWhile isOutside).reverse
  inside.filter (fun c => !isPassedOver c)

def isSchemeChar (c : Char) : Bool := c.isAlphanum || c = '+' || c = '-' || c = '.'

/-- The scheme in lower case, and what follows its colon. -/
def cutScheme (text : List Char) : Option (String × List Char) :=
  match cutWhen (fun c => !isSchemeChar c) text with
  | (name, ':' :: rest) =>
    if name.head?.any Char.isAlpha then some (String.ofList (name.map Char.toLower), rest) else none
  | _ => none

/-- What a scheme says about its URLs. -/
inductive SchemeKind
  /-- The host is a domain name, and there is a usual port. -/
  | network (port : Nat)
  /-- A file; it has no port. -/
  | file
  /-- Nothing is known about the scheme. -/
  | other
deriving DecidableEq, Repr

def SchemeKind.ofName (name : String) : SchemeKind :=
  if name = "http" || name = "ws" then network 80
  else if name = "https" || name = "wss" then network 443
  else if name = "ftp" then network 21
  else if name = "file" then file
  else other

/-- The slash, or for a scheme that is known the backslash too. -/
def isSlash (known : Bool) (c : Char) : Bool := c = '/' || (known && c = '\\')

/-- Whether a character ends the part of a URL that holds the host. -/
def endsAuthority (known : Bool) (c : Char) : Bool := isSlash known c || c = '?' || c = '#'

/-- What stands before the last `@`, if there is one, and what follows it. -/
def cutUser (authority : List Char) : Option (List Char) × List Char :=
  match cutWhen (· == '@') authority.reverse with
  | (_, []) => (none, authority)
  | (host, _ :: user) => (some user.reverse, host.reverse)

/-- The host, and what follows it from its colon on; between brackets a colon belongs to it. -/
def cutHost (inBrackets : Bool) : List Char → List Char × List Char
  | [] => ([], [])
  | c :: rest =>
    if c = ':' && !inBrackets then ([], c :: rest)
    else
      let inBrackets := if c = '[' then true else if c = ']' then false else inBrackets
      let (host, rest) := cutHost inBrackets rest
      (c :: host, rest)

/-! ## Hosts -/

/-- The bytes of a text whose escapes `%41` stand for bytes. -/
def unescape : List Char → Bytes
  | [] => []
  | '%' :: a :: b :: rest =>
    if NumericHost.isHex a && NumericHost.isHex b then
      UInt8.ofNat (NumericHost.value 16 [a, b]) :: unescape rest
    else Utf8.encodePoint '%'.toNat ++ unescape (a :: b :: rest)
  | c :: rest => Utf8.encodePoint c.toNat ++ unescape rest
termination_by text => text.length

/-- The escape of a byte. -/
def escape (b : UInt8) : List Char :=
  let digits := (Quoted.hex b.toNat).toList.map Char.toUpper
  '%' :: List.replicate (2 - digits.length) '0' ++ digits

/-- A text with control characters and characters beyond ASCII escaped. -/
def escapeText (text : List Char) : List Char :=
  (Utf8.encodeChars text).flatMap (fun b =>
    if 0x20 ≤ b && b < 0x7F then [Char.ofNat b.toNat] else escape b)

/-- A host between brackets. -/
def bracketedHost (text : List Char) : Except AddressFlaw (List Char) :=
  match text with
  | '[' :: rest =>
    if rest.getLast? = some ']' then
      match NumericHost.long? rest.dropLast with
      | some host => .ok ('[' :: host ++ [']'])
      | none => .error .badLongNumber
    else .error .badLongNumber
  | _ => .error .badLongNumber

/-- The host of a scheme that is known: a domain name or a number. -/
def namedHost (text : List Char) : Except AddressFlaw (List Char) :=
  if text.head? = some '[' then bracketedHost text
  else
    match (Utf8.decode? (unescape text)).bind (fun name => DomainName.toAscii? name.toList) with
    | none => .error .badName
    | some [] => .error .emptyHost
    | some name =>
      if NumericHost.endsInNumber name then
        match NumericHost.short? name with
        | some host => .ok host
        | none => .error .badShortNumber
      else .ok name

/-- The signs that the host of an unknown scheme does not hold. -/
def opaqueRefused : List Char :=
  [Char.ofNat 0, '\t', '\n', '\r', ' ', '#', '/', ':', '<', '>', '?', '@', '[', '\\', ']', '^', '|']

/-- The host of an unknown scheme, which is kept as it is. -/
def opaqueHost (text : List Char) : Except AddressFlaw (List Char) :=
  if text.head? = some '[' then bracketedHost text
  else if text.any opaqueRefused.contains then .error .badCharacter
  else .ok (escapeText text)

/-! ## Ports -/

/-- The digits of a port, which a slash, `?` or `#` may follow. No digits are no port. -/
def readPort (text : List Char) : Except AddressFlaw (Option Nat) :=
  let (digits, rest) := cutWhen (fun c => !c.isDigit) text
  let port := NumericHost.value 10 digits
  if 65535 < port then .error .badPort
  else if !rest.isEmpty && !rest.head?.any (endsAuthority true) then .error .badPort
  else .ok (if digits.isEmpty then none else some port)

/-! ## URLs -/

/-- The host and the port that follow the two slashes of a URL. The host may be missing where the
    scheme is unknown, unless a user was named. -/
def readAuthority (known : Bool) (text : List Char) :
    Except AddressFlaw (Option (List Char) × Option Nat) := do
  let (authority, path) := cutWhen (endsAuthority known) text
  let (user, place) := cutUser authority
  if user = some [] && place.isEmpty && !path.isEmpty then .error .emptyHost
  else
    let (host, rest) := cutHost false place
    if host.isEmpty && (known || !rest.isEmpty) then .error .emptyHost
    else
      let host ← if known then namedHost host else opaqueHost host
      let port ← match rest with
        | ':' :: digits => readPort digits
        | _ => .ok none
      if host.isEmpty then
        if user.any (fun u => u ≠ [] && u ≠ [':']) then .error .emptyHost else .ok (none, port)
      else .ok (some host, port)

/-- Whether a text is a letter followed by `:` or `|`, which names a drive. -/
def isDrive : List Char → Bool
  | [letter, mark] => letter.isAlpha && (mark = ':' || mark = '|')
  | _ => false

/-- A step of a path with its escaped points made plain. -/
def plainPoints : List Char → List Char
  | '%' :: '2' :: 'e' :: rest | '%' :: '2' :: 'E' :: rest => '.' :: plainPoints rest
  | c :: rest => c :: plainPoints rest
  | [] => []

/-- The steps of the path of a file. -/
def fileSteps (path : List Char) : List (List Char) :=
  Parts.cutAt '/' (((cutWhen (fun c => c = '?' || c = '#') path).1.map
    (fun c => if c = '\\' then '/' else c)).drop 1)

/-- Whether the path of a file begins with a drive, once the steps that stay and lead upward are
    gone; `depth` steps lie before. -/
def namesDrive (depth : Nat) : List (List Char) → Bool
  | [] => false
  | step :: rest =>
    if plainPoints step = ['.', '.'] then namesDrive (depth - 1) rest
    else if plainPoints step = ['.'] then namesDrive depth rest
    else (depth = 0 && isDrive step) || namesDrive (depth + 1) rest

/-- The host of a file, if it is on another machine. -/
def readFile (text : List Char) : Except AddressFlaw (Option (List Char)) := do
  match text with
  | a :: b :: rest =>
    if isSlash true a && isSlash true b then
      let (host, path) := cutWhen (endsAuthority true) rest
      if host.isEmpty || isDrive host then .ok none
      else
        let host ← namedHost host
        if host = "localhost".toList || namesDrive 0 (fileSteps path) then .ok none
        else .ok (some host)
    else .ok none
  | _ => .ok none

/-- The host and the port of a URL. -/
def readUrl (url : String) : Except AddressFlaw (Option (List Char) × Option Nat) := do
  match cutScheme (clean url.toList) with
  | none => .error .relative
  | some (scheme, rest) =>
    match SchemeKind.ofName scheme with
    | .network usual =>
      let (host, port) ← readAuthority true (rest.dropWhile (isSlash true))
      .ok (host, some (port.getD usual))
    | .file => .ok (← readFile rest, none)
    | .other =>
      match rest with
      | '/' :: '/' :: rest => readAuthority false rest
      | _ => .ok (none, none)

/-- Reads the address that a URL names, or says what is wrong with it. -/
def read (url : String) : Except AddressFlaw Address :=
  match readUrl url with
  | .error flaw => .error flaw
  | .ok (none, _) => .error .noHost
  | .ok (some _, none) => .error .noPort
  | .ok (some host, some port) => .ok ⟨String.ofList host, port⟩

/-- Reads the address that a URL names. -/
def parse (url : String) : Except Fault Address :=
  (read url).mapError (fun flaw => .invalidLocator url flaw.message)

end Address

end DataStaging
