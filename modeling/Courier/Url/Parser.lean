import Courier.Text.Form
import Courier.Url.Address
import Courier.Url.Domain

/-!
# Reading URLs

A text is trimmed of blanks and control characters at both ends and freed of tabs and line ends
within. It must start with a scheme. The special schemes need a host and accept any number of
slashes and backslashes before it; of the others, those with two slashes have a host, those with
one slash a list of segments, and the rest a text of their own. Dots in a path are resolved, and
characters that may not stand in a part are escaped there.
-/

namespace Courier.Url

open Courier.Text

/-- The part before a character of the class, and what starts there. -/
def breakAt (stop : Char → Bool) (cs : List Char) : List Char × List Char :=
  (cs.takeWhile (!stop ·), cs.dropWhile (!stop ·))

/-- The scheme, in small letters, and what follows its colon. -/
def scheme? (cs : List Char) : Option (String × List Char) :=
  match cs with
  | [] => none
  | c :: _ =>
    if !Ascii.isLetter c then none
    else
      let inScheme (x : Char) : Bool :=
        Ascii.isLetter x || Ascii.isDigit x || x = '+' || x = '-' || x = '.'
      let (name, rest) := breakAt (!inScheme ·) cs
      match rest with
      | ':' :: rest => some (String.ofList (name.map Ascii.lower), rest)
      | _ => none

/-- Whether a character separates segments. -/
def isSlash (special : Bool) (c : Char) : Bool :=
  c = '/' || (special && c = '\\')

/-- Whether a character ends the host and what belongs to it. -/
def endsAuthority (special : Bool) (c : Char) : Bool :=
  isSlash special c || c = '?' || c = '#'

/-- The text before the last sign of the kind, and the text after it. -/
def splitAtLast (sep : Char) (cs : List Char) : Option (List Char × List Char) :=
  match breakAt (· = sep) cs.reverse with
  | (_, []) => none
  | (after, _ :: before) => some (before.reverse, after.reverse)

/-- The user and the password, escaped. -/
def userParts (cs : List Char) : String × String :=
  let (user, rest) := breakAt (· = ':') cs
  (String.ofList (Percent.encode Percent.keptInUser user),
    String.ofList (Percent.encode Percent.keptInUser (rest.drop 1)))

/-- The host up to a colon outside brackets, and what starts there. -/
def breakHost : Bool → List Char → List Char × List Char
  | _, [] => ([], [])
  | inside, c :: rest =>
    if c = ':' && !inside then ([], c :: rest)
    else
      let inside := if c = '[' then true else if c = ']' then false else inside
      let (host, rest) := breakHost inside rest
      (c :: host, rest)

/-- The address between brackets. -/
def bracketed (cs : List Char) : Except Error Host :=
  if cs.getLast? == some ']' then
    match ipv6? (cs.drop 1).dropLast with
    | some pieces => .ok (.ipv6 pieces)
    | none => .error .invalidIpv6
  else .error .invalidIpv6

/-- What may not stand in the host of a scheme with no rules of its own. -/
def isForbiddenInHost (c : Char) : Bool :=
  ['\x00', '\t', '\n', '\r', ' ', '#', '/', ':', '<', '>', '?', '@', '[', '\\', ']', '^', '|'].contains c

/-- The host of a scheme with no rules of its own: kept as it is, with what is not printable
escaped. -/
def plainHost (cs : List Char) : Except Error Host :=
  if cs.head? == some '[' then bracketed cs
  else if cs.any isForbiddenInHost then .error .invalidDomainCharacter
  else .ok (.name (String.ofList (Percent.encode Percent.isPlain cs)))

/-- The host of a special scheme: a domain name or an address. -/
def specialHost (cs : List Char) : Except Error Host :=
  if cs.head? == some '[' then bracketed cs
  else
    match Domain.toAscii? (Percent.decode (Utf8.encode (String.ofList cs))) with
    | none => .error .invalidDomain
    | some domain =>
      if domain.isEmpty then .error .emptyHost
      else if endsInNumber domain then
        match ipv4? domain with
        | some address => .ok (.ipv4 address)
        | none => .error .invalidIpv4
      else .ok (.name (String.ofList domain))

/-- A port, without the one the scheme uses by itself. Anything but digits is refused, except a
backslash and what follows it. -/
def portOf (scheme : String) (cs : List Char) : Except Error (Option Nat × List Char) :=
  let (digits, rest) := breakAt (!Ascii.isDigit ·) cs
  let value := (inBase? 10 digits).getD 0
  if value > 65535 then .error .invalidPort
  else if !rest.isEmpty && rest.head? != some '\\' then .error .invalidPort
  else if digits.isEmpty || some value == defaultPort? scheme then .ok (none, rest)
  else .ok (some value, rest)

/-- User, password, host and port, and what follows them. -/
def authority (scheme : String) (cs : List Char) :
    Except Error (String × String × Host × Option Nat × List Char) :=
  let special := isSpecial scheme
  let (text, rest) := breakAt (endsAuthority special) cs
  let (credentials, location) := (splitAtLast '@' text).getD ([], text)
  let (user, password) := userParts credentials
  let (hostText, afterHost) := breakHost false location
  let needed := special || !afterHost.isEmpty || !user.isEmpty || !password.isEmpty
    || (text == ['@'] && !rest.isEmpty)
  if hostText.isEmpty && needed then .error .emptyHost
  else
    match if special then specialHost hostText else plainHost hostText with
    | .error e => .error e
    | .ok host =>
      match portOf scheme (afterHost.drop 1) with
      | .error e => .error e
      | .ok (p, more) => .ok (user, password, host, p, more ++ rest)

/-- A segment in small letters, for telling dots in any spelling. -/
def folded (segment : List Char) : String :=
  String.ofList (segment.map Ascii.lower)

/-- Whether a segment stands for the one before it. -/
def isDoubleDot (segment : List Char) : Bool :=
  ["..", "%2e.", ".%2e", "%2e%2e"].contains (folded segment)

/-- Whether a segment stands for nothing. -/
def isSingleDot (segment : List Char) : Bool :=
  [".", "%2e"].contains (folded segment)

/-- Whether a segment is a letter and a colon, or, if `loose`, a bar. -/
def isDrive (loose : Bool) (segment : List Char) : Bool :=
  match segment with
  | [c, d] => Ascii.isLetter c && (d = ':' || (loose && d = '|'))
  | _ => false

/-- The path without its last segment, where segments are last first. A drive stays. -/
def shorten : List (List Char) → List (List Char)
  | [] => []
  | s :: rest => if isDrive true s then s :: rest else rest

/-- Adds segments to those done, which are last first. The last segment leaves an empty one where
it is dots. -/
def resolve (file : Bool) : List (List Char) → List (List Char) → List (List Char)
  | done, [] => done
  | done, s :: rest =>
    let isLast := rest.isEmpty
    if isDoubleDot s then
      let done := shorten done
      resolve file (if isLast then [] :: done else done) rest
    else if isSingleDot s then resolve file (if isLast then [] :: done else done) rest
    else
      let s := if file && done.isEmpty && isDrive true s then s.take 1 ++ [':'] else s
      resolve file (s :: done) rest

/-- The parts of a text between slashes. -/
def segmentsOf (special : Bool) : List Char → List (List Char)
  | [] => [[]]
  | c :: rest =>
    if isSlash special c then [] :: segmentsOf special rest
    else
      match segmentsOf special rest with
      | [] => [[c]]
      | s :: more => (c :: s) :: more

/-- The path of segments that are not escaped yet. -/
def pathOf (special : Bool) (cs : List Char) : Path :=
  .segments (((resolve false [] ((segmentsOf special cs).map (Percent.encode Percent.keptInPath))).reverse).map
    String.ofList)

/-- The path of a file, and whether it starts with a drive. A file path has no empty segments at its
start. -/
def filePath (cs : List Char) : Path × Bool :=
  let list := (resolve true [] ((segmentsOf true cs).map (Percent.encode Percent.keptInPath))).reverse
  let hasDrive := match list with
    | s :: _ => isDrive false s
    | [] => false
  let list := list.dropWhile List.isEmpty
  (.segments ((if list.isEmpty then [[]] else list).map String.ofList), hasDrive)

/-- The query and the fragment at the start of a text, escaped. -/
def queryAndFragment (scheme : String) (cs : List Char) : Option String × Option String :=
  let kept := if isSpecial scheme then Percent.keptInWebQuery else Percent.keptInQuery
  let (front, rest) := breakAt (· = '#') cs
  let query :=
    match front with
    | '?' :: q => some (String.ofList (Percent.encode kept q))
    | _ => none
  let fragment :=
    match rest with
    | '#' :: f => some (String.ofList (Percent.encode Percent.keptInFragment f))
    | _ => none
  (query, fragment)

/-- The path after a host: special schemes always have one. -/
def pathAfterHost (scheme : String) (cs : List Char) : Path :=
  match cs with
  | [] => if isSpecial scheme then .segments [""] else .segments []
  | c :: rest =>
    if isSlash (isSpecial scheme) c then pathOf (isSpecial scheme) rest
    else pathOf (isSpecial scheme) cs

/-- What follows the colon of a scheme with a host. -/
def withHost (scheme : String) (cs : List Char) : Except Error Url :=
  match authority scheme cs with
  | .error e => .error e
  | .ok (user, password, host, p, rest) =>
    let (pathText, rest) := breakAt (fun c => c = '?' || c = '#') rest
    let (query, fragment) := queryAndFragment scheme rest
    .ok ⟨scheme, user, password, some host, p, pathAfterHost scheme pathText, query, fragment⟩

/-- What follows the colon of a scheme with no rules of its own and no two slashes. -/
def withoutHost (scheme : String) (cs : List Char) : Url :=
  let (pathText, rest) := breakAt (fun c => c = '?' || c = '#') cs
  let (query, fragment) := queryAndFragment scheme rest
  let path : Path :=
    match pathText with
    | '/' :: more => pathOf false more
    | _ => .rootless (String.ofList (Percent.encode Percent.isPlain pathText))
  ⟨scheme, "", "", none, none, path, query, fragment⟩

/-- The URL of a file on a host, from the text of the path and what follows it. A path that starts
with a drive has no host. -/
def fileOn (host : Option Host) (cs : List Char) : Url :=
  let (pathText, rest) := breakAt (fun c => c = '?' || c = '#') cs
  let (query, fragment) := queryAndFragment "file" rest
  let (path, hasDrive) := filePath pathText
  let shown := if hasDrive then none else host
  ⟨"file", "", "", some (shown.getD (.name "")), none, path, query, fragment⟩

/-- What follows `file:`. The host of this machine is left out, and a drive is no host. -/
def fileUrl (cs : List Char) : Except Error Url :=
  match cs with
  | [] => .ok (fileOn none [])
  | a :: rest =>
    if !isSlash true a then .ok (fileOn none cs)
    else
      match rest with
      | [] => .ok (fileOn none [])
      | b :: rest' =>
        if !isSlash true b then .ok (fileOn none rest)
        else
          let (hostText, more) := breakAt (endsAuthority true) rest'
          if isDrive true hostText then .ok (fileOn none rest')
          else if hostText.isEmpty then .ok (fileOn none more)
          else
            (specialHost hostText).map fun host =>
              if host == .name "localhost" then fileOn none more
              else
                match more with
                | c :: path => fileOn (some host) (if isSlash true c then path else more)
                | [] => fileOn (some host) []

/-- Whether a character is trimmed from both ends. -/
def isTrimmed (c : Char) : Bool :=
  c ≤ ' '

/-- The URL that a text spells. -/
def parse (input : String) : Except Error Url :=
  let trimmed := ((input.toList.dropWhile isTrimmed).reverse.dropWhile isTrimmed).reverse
  let cs := trimmed.filter fun c => !(c = '\t' || c = '\n' || c = '\r')
  match scheme? cs with
  | none => .error .relativeWithoutBase
  | some (scheme, rest) =>
    if scheme == "file" then fileUrl rest
    else if isSpecial scheme then withHost scheme (rest.dropWhile (isSlash true))
    else
      match rest with
      | '/' :: '/' :: rest => withHost scheme rest
      | _ => .ok (withoutHost scheme rest)

/-- The URL with form-encoded pairs after the query it has. -/
def addQuery (u : Url) (pairs : List (String × String)) : Url :=
  if pairs.isEmpty then u
  else { u with query := some (String.ofList (Form.append (u.query.getD "").toList pairs)) }

end Courier.Url
