import Courier.Decimal.Numeral
import Courier.Text.Ascii

/-!
# Url — the parts of a URL and its text

A URL with a host writes it after two slashes, with the user, the password and a port that is not
the scheme's own. Its path is a list of segments, each after a slash; only a URL without a host may
have a path that is not such a list. `Url.chars` is the one text of a URL.
-/

namespace Courier

/-- The host of a URL: a name, or an address in either format. -/
inductive Host where
  | name (text : String)
  | ipv4 (address : Nat)
  | ipv6 (pieces : List Nat)
  deriving Repr, DecidableEq, Inhabited

/-- The path of a URL: segments, or a text that does not start at a root. -/
inductive Path where
  | segments (list : List String)
  | rootless (text : String)
  deriving Repr, DecidableEq, Inhabited

/-- A URL. -/
structure Url where
  scheme : String
  user : String
  password : String
  host : Option Host
  port : Option Nat
  path : Path
  query : Option String
  fragment : Option String
  deriving Repr, DecidableEq, Inhabited

namespace Url

/-- Why a text is no URL. -/
inductive Error where
  | relativeWithoutBase
  | emptyHost
  | invalidPort
  | invalidIpv4
  | invalidIpv6
  | invalidDomain
  | invalidDomainCharacter
  deriving Repr, DecidableEq, Inhabited

/-- The error in words. -/
def Error.message : Error → String
  | .relativeWithoutBase => "relative URL without a base"
  | .emptyHost => "empty host"
  | .invalidPort => "invalid port number"
  | .invalidIpv4 => "invalid IPv4 address"
  | .invalidIpv6 => "invalid IPv6 address"
  | .invalidDomain => "invalid international domain name"
  | .invalidDomainCharacter => "invalid domain character"

/-- The schemes with rules of their own, each with its port. -/
def specialSchemes : List (String × Option Nat) :=
  [("http", some 80), ("https", some 443), ("ws", some 80), ("wss", some 443), ("ftp", some 21),
    ("file", none)]

/-- Whether a scheme has rules of its own. -/
def isSpecial (scheme : String) : Bool :=
  (specialSchemes.lookup scheme).isSome

/-- The port a scheme uses by itself. -/
def defaultPort? (scheme : String) : Option Nat :=
  (specialSchemes.lookup scheme).join

/-- Four numbers joined by points. -/
def ipv4Chars (address : Nat) : List Char :=
  Numeral.digits (address >>> 24 % 256) ++ '.' :: Numeral.digits (address >>> 16 % 256) ++
    '.' :: Numeral.digits (address >>> 8 % 256) ++ '.' :: Numeral.digits (address % 256)

/-- The number of zeros at the start of a list. -/
def zeros (pieces : List Nat) : Nat :=
  (pieces.takeWhile (· == 0)).length

/-- Where the longest run of zeros starts, and its length; the first of equal ones. -/
def longestZeros (start : Nat) : List Nat → Nat × Nat
  | [] => (start, 0)
  | p :: rest =>
    let here := zeros (p :: rest)
    let later := longestZeros (start + 1) rest
    if here ≥ later.2 then (start, here) else later

/-- Pieces in hexadecimal, joined by colons. -/
def piecesChars (pieces : List Nat) : List Char :=
  [':'].intercalate (pieces.map (Nat.toDigits 16))

/-- The eight pieces of an address; the longest run of at least two zeros is left out. -/
def ipv6Chars (pieces : List Nat) : List Char :=
  let (start, count) := longestZeros 0 pieces
  if count < 2 then piecesChars pieces
  else piecesChars (pieces.take start) ++ [':', ':'] ++ piecesChars (pieces.drop (start + count))

/-- The text of a host. -/
def hostChars : Host → List Char
  | .name text => text.toList
  | .ipv4 address => ipv4Chars address
  | .ipv6 pieces => '[' :: (ipv6Chars pieces ++ [']'])

/-- The text of a path. -/
def pathChars : Path → List Char
  | .segments list => list.flatMap fun s => '/' :: s.toList
  | .rootless text => text.toList

/-- The user and the password, with the sign that ends them. -/
def userChars (u : Url) : List Char :=
  if u.user.isEmpty && u.password.isEmpty then []
  else if u.password.isEmpty then u.user.toList ++ ['@']
  else u.user.toList ++ ':' :: (u.password.toList ++ ['@'])

/-- The host and what belongs to it. A path that starts with two slashes is kept apart from a host
by a segment that says nothing. -/
def authorityChars (u : Url) : List Char :=
  match u.host with
  | some h =>
    ['/', '/'] ++ u.userChars ++ hostChars h ++
      (match u.port with
        | some p => ':' :: Numeral.digits p
        | none => [])
  | none =>
    match u.path with
    | .segments ("" :: _ :: _) => ['/', '.']
    | _ => []

/-- The text of a URL. -/
def chars (u : Url) : List Char :=
  u.scheme.toList ++ ':' :: (u.authorityChars ++ pathChars u.path ++
    (match u.query with
      | some q => '?' :: q.toList
      | none => []) ++
    (match u.fragment with
      | some f => '#' :: f.toList
      | none => []))

/-- The text of a URL as a string. -/
def print (u : Url) : String :=
  String.ofList u.chars

/-- The text of the path alone. -/
def pathText (u : Url) : String :=
  String.ofList (pathChars u.path)

end Url

end Courier
