import ReplyStage.DomainName
import ReplyStage.Text.Utf8
/-!
# Server addresses

The addresses under which servers are reached: a URL with one of four schemes. A text without a
scheme is taken to be a `nats` address. URLs are read as the URL standard says: tabs and line
breaks do not count, the schemes of the web have names of domains or numbers for hosts, and all
other schemes have opaque hosts.
-/

namespace ReplyStage

/-- Why a text is no server address. -/
inductive AddressError
  | relative
  | emptyHost
  | invalidPort
  | invalidIPv4
  | invalidIPv6
  | invalidDomainCharacter
  | invalidDomain
  | scheme (name : String)
  deriving DecidableEq, Repr

/-- The sentence that reports the error. -/
def AddressError.message : AddressError → String
  | .relative => "NATS server URL is invalid: relative URL without a base"
  | .emptyHost => "NATS server URL is invalid: empty host"
  | .invalidPort => "NATS server URL is invalid: invalid port number"
  | .invalidIPv4 => "NATS server URL is invalid: invalid IPv4 address"
  | .invalidIPv6 => "NATS server URL is invalid: invalid IPv6 address"
  | .invalidDomainCharacter => "NATS server URL is invalid: invalid domain character"
  | .invalidDomain => "NATS server URL is invalid: invalid international domain name"
  | .scheme name => s!"invalid scheme for NATS server URL: {name}"

/-- A server address: the scheme, the host as written and the port if one is given. -/
structure ServerAddress where
  scheme : String
  host : String
  port : Option Nat
  deriving DecidableEq, Repr

namespace ServerAddress

/-- How the host of a scheme is read. -/
inductive HostKind
  | web
  | file
  | opaqueHost
  deriving DecidableEq, Repr

def hostKind (scheme : String) : HostKind :=
  if scheme = "file" then .file
  else if scheme ∈ ["http", "https", "ws", "wss", "ftp"] then .web
  else .opaqueHost

/-- The schemes under which a server is reached. -/
def serverSchemes : List String := ["nats", "tls", "ws", "wss"]

/-! ## Addresses in numbers -/

def isDigit (c : Char) : Bool := '0' ≤ c && c ≤ '9'

def isOctal (c : Char) : Bool := '0' ≤ c && c ≤ '7'

def isHex (c : Char) : Bool := isDigit c || ('a' ≤ c && c ≤ 'f') || ('A' ≤ c && c ≤ 'F')

/-- The value of a hexadecimal digit. -/
def hexValue (c : Char) : Nat :=
  if isDigit c then c.toNat - '0'.toNat
  else if 'a' ≤ c then c.toNat - 'a'.toNat + 10
  else c.toNat - 'A'.toNat + 10

/-- The value of digits with a base. -/
def digitsValue (base : Nat) (digits : List Char) : Nat :=
  digits.foldl (fun n c => n * base + hexValue c) 0

/-- A part of an IPv4 address: decimal, octal after a zero, hexadecimal after `0x`. -/
def ipv4Number? : List Char → Option Nat
  | [] => none
  | '0' :: 'x' :: digits | '0' :: 'X' :: digits =>
    if digits.all isHex then some (digitsValue 16 digits) else none
  | '0' :: d :: digits =>
    if (d :: digits).all isOctal then some (digitsValue 8 (d :: digits)) else none
  | digits => if digits.all isDigit then some (digitsValue 10 digits) else none

/-- The parts of a domain, without an empty one at its end. -/
def domainParts (domain : List Char) : List (List Char) :=
  let parts := Text.splitChars '.' domain
  if parts.getLast? = some [] then parts.dropLast else parts

/-- Whether a domain has to be an IPv4 address: its last part is a number. -/
def endsInNumber (domain : List Char) : Bool :=
  match (domainParts domain).getLast? with
  | none => false
  | some last => (last ≠ [] ∧ last.all isDigit) || (ipv4Number? last).isSome

/-- Whether a domain is an IPv4 address of at most four parts, the last of which fills the rest. -/
def isIPv4 (domain : List Char) : Bool :=
  let parts := domainParts domain
  match (parts.map ipv4Number?).reverse with
  | [] => false
  | last :: others =>
    parts.length ≤ 4 && others.all (fun n => n.any (· ≤ 255)) &&
      last.any (· < Nat.pow 256 (5 - parts.length))

/-- Reads the IPv4 address at the end of an IPv6 address: four numbers up to 255 without leading
zeros. -/
def isDottedQuad (cs : List Char) : Bool :=
  let parts := Text.splitChars '.' cs
  parts.length = 4 && parts.all fun part =>
    part ≠ [] && part.all isDigit && (part.length = 1 || part.head? ≠ some '0') &&
      part.length ≤ 3 && digitsValue 10 part ≤ 255

/-- Reads the pieces of an IPv6 address: `seen` of them came before, and the double colon has
been used or not. -/
def ipv6Pieces (seen : Nat) (compressed : Bool) (fuel : Nat) (cs : List Char) : Bool :=
  match fuel, cs with
  | 0, _ => false
  | _, [] => compressed || seen = 8
  | fuel + 1, ':' :: rest =>
    seen < 8 && !compressed && ipv6Pieces (seen + 1) true fuel rest
  | fuel + 1, cs =>
    let digits := (cs.take 4).takeWhile isHex
    seen < 8 &&
      match cs.drop digits.length with
      | [] => ipv6Pieces (seen + 1) compressed fuel []
      | '.' :: _ =>
        digits ≠ [] && seen ≤ 6 && isDottedQuad cs &&
          (compressed || seen + 2 = 8)
      | [':'] => false
      | ':' :: rest => ipv6Pieces (seen + 1) compressed fuel rest
      | _ => false

/-- Whether a text is an IPv6 address. -/
def isIPv6 (cs : List Char) : Bool :=
  match cs with
  | ':' :: ':' :: rest => ipv6Pieces 1 true (rest.length + 2) rest
  | [] | [_] | ':' :: _ => false
  | cs => ipv6Pieces 0 false (cs.length + 2) cs

/-- Reads a host in brackets. -/
def bracketed (host : List Char) : Except AddressError Unit :=
  if host.getLast? = some ']' ∧ isIPv6 (host.drop 1).dropLast then .ok () else .error .invalidIPv6

/-! ## Hosts -/

/-- The characters that no opaque host has. -/
def isForbiddenInHost (c : Char) : Bool :=
  c ∈ ['\x00', '\t', '\n', '\r', ' ', '#', '/', ':', '<', '>', '?', '@', '[', '\\', ']', '^', '|']

/-- The characters that no domain has. -/
def isForbiddenInDomain (c : Char) : Bool := isForbiddenInHost c || c ≤ ' ' || c = '%' || c = '\x7f'

/-- Bytes with every percent sign and two hexadecimal digits decoded. -/
def percentDecode : Bytes → Bytes
  | [] => []
  | 0x25 :: a :: b :: rest =>
    let x := Char.ofNat a.toNat
    let y := Char.ofNat b.toNat
    if isHex x ∧ isHex y then UInt8.ofNat (hexValue x * 16 + hexValue y) :: percentDecode rest
    else 0x25 :: percentDecode (a :: b :: rest)
  | b :: rest => b :: percentDecode rest
termination_by bytes => bytes.length

/-- Reads the host of a scheme of the web. -/
def webHost (host : List Char) : Except AddressError Unit :=
  if host.head? = some '[' then bracketed host
  else
    match Text.Utf8.decode (percentDecode (Text.Utf8.encodeChars host)) with
    | .error _ => .error .invalidDomain
    | .ok name =>
      match DomainName.standardText? name.toList with
      | none => .error .invalidDomain
      | some domain =>
        if domain.any isForbiddenInDomain then .error .invalidDomain
        else if domain = [] then .error .emptyHost
        else if endsInNumber domain then
          if isIPv4 domain then .ok () else .error .invalidIPv4
        else .ok ()

/-- Reads the host of any other scheme. -/
def opaqueHost (host : List Char) : Except AddressError Unit :=
  if host.head? = some '[' then bracketed host
  else if host.any isForbiddenInHost then .error .invalidDomainCharacter
  else .ok ()

/-! ## Authorities -/

/-- Whether a character ends the part of a URL that names user, host and port. -/
def endsAuthority (kind : HostKind) (c : Char) : Bool :=
  c = '/' || c = '?' || c = '#' || (kind ≠ .opaqueHost && c = '\\')

/-- The text before and after the last at sign, if there is one. -/
def splitUser (authority : List Char) : Option (List Char × List Char) :=
  if '@' ∈ authority then
    let host := (authority.reverse.takeWhile (· ≠ '@')).reverse
    some (authority.take (authority.length - host.length - 1), host)
  else none

/-- The text up to the colon before the port, and the text after that colon if there is one. A
colon in brackets does not count. -/
def splitPort (inBrackets : Bool) : List Char → List Char × Option (List Char)
  | [] => ([], none)
  | c :: rest =>
    if c = ':' ∧ ¬ inBrackets then ([], some rest)
    else
      let (host, port) := splitPort (if c = '[' then true else if c = ']' then false else inBrackets) rest
      (c :: host, port)

/-- Reads a port; after a colon there need not be one. -/
def readPort (cs : List Char) : Except AddressError (Option Nat) :=
  match cs.dropWhile isDigit with
  | [] =>
    if cs = [] then .ok none
    else if digitsValue 10 cs ≤ 65535 then .ok (some (digitsValue 10 cs))
    else .error .invalidPort
  | _ :: _ => .error .invalidPort

/-- Reads user, host and port. -/
def readAuthority (scheme : String) (kind : HostKind) (authority next : List Char) :
    Except AddressError ServerAddress := do
  let (user, location) := (splitUser authority).getD ([], authority)
  -- a host may only be missing where nothing needs one: neither user nor port
  if '@' ∈ authority ∧ user = [] ∧ location = [] ∧ next ≠ [] then throw .emptyHost
  let (host, port) := splitPort false location
  if host = [] then
    if kind = .web ∨ port.isSome then throw .emptyHost
  match kind with
  | .web => webHost host
  | _ => opaqueHost host
  let port ←
    match port with
    | none => pure none
    | some digits => readPort (if kind = .opaqueHost then digits.takeWhile (· ≠ '\\') else digits)
  if host = [] ∧ user ≠ [] ∧ user ≠ [':'] then throw .emptyHost
  return ⟨scheme, String.ofList host, port⟩

/-- Reads what follows the scheme and its colon. -/
def readRest (scheme : String) (rest : List Char) : Except AddressError ServerAddress :=
  let none' : ServerAddress := ⟨scheme, "", none⟩
  match hostKind scheme with
  | .web =>
    let rest := rest.dropWhile fun c => c = '/' || c = '\\'
    readAuthority scheme .web (rest.takeWhile (!endsAuthority .web ·))
      (rest.dropWhile (!endsAuthority .web ·))
  | .file =>
    match rest with
    | a :: b :: rest =>
      let host := rest.takeWhile (!endsAuthority .file ·)
      if (a = '/' ∨ a = '\\') ∧ (b = '/' ∨ b = '\\') ∧ host ≠ [] then
        (webHost host).map fun _ => none'
      else .ok none'
    | _ => .ok none'
  | .opaqueHost =>
    match rest with
    | '/' :: '/' :: rest =>
      readAuthority scheme .opaqueHost (rest.takeWhile (!endsAuthority .opaqueHost ·))
        (rest.dropWhile (!endsAuthority .opaqueHost ·))
    | _ => .ok none'

def isAlpha (c : Char) : Bool := ('a' ≤ c && c ≤ 'z') || ('A' ≤ c && c ≤ 'Z')

def isSchemeChar (c : Char) : Bool :=
  isAlpha c || isDigit c || c = '+' || c = '-' || c = '.'

/-- The characters of a URL that count: neither blanks and controls at its ends nor tabs and line
breaks. -/
def significant (cs : List Char) : List Char :=
  ((cs.dropWhile (· ≤ ' ')).reverse.dropWhile (· ≤ ' ')).reverse.filter
    fun c => c ≠ '\t' && c ≠ '\n' && c ≠ '\r'

/-- Reads a URL. -/
def readUrl (cs : List Char) : Except AddressError ServerAddress :=
  let cs := significant cs
  match cs, cs.dropWhile isSchemeChar with
  | c :: _, ':' :: rest =>
    if isAlpha c then
      readRest (String.ofList ((cs.takeWhile isSchemeChar).map Char.toLower)) rest
    else .error .relative
  | _, _ => .error .relative

/-- Whether a text has a scheme and an authority. -/
def hasScheme : List Char → Bool
  | ':' :: '/' :: '/' :: _ => true
  | [] => false
  | _ :: rest => hasScheme rest

/-- Reads a text as a server address. -/
def ofText (s : String) : Except AddressError ServerAddress := do
  let cs := s.toList
  let address ← readUrl (if hasScheme cs then cs else "nats://".toList ++ cs)
  if address.scheme ∈ serverSchemes then return address else throw (.scheme address.scheme)

end ServerAddress
end ReplyStage
