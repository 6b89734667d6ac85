import Delegation.Url.Basic

/-!
# Reading URLs

An absolute URL is read part by part: scheme, user information, host, port, path, query and
fragment. Whatever a part does not hold is encoded, dots in the path are resolved, and a
port that the scheme implies is dropped.
-/

namespace Delegation
namespace Url
namespace Reader

/-- Controls and the space, which do not count at either end of a URL. -/
def isOuterBlank (c : Char) : Bool :=
  decide (c.toNat ≤ 0x20)

/-- Characters that are dropped anywhere in a URL. -/
def isDropped (c : Char) : Bool :=
  c == '\t' || c == '\n' || c == '\r'

/-- The characters of a URL that count. -/
def clean (text : List Char) : List Char :=
  (((text.dropWhile isOuterBlank).reverse.dropWhile isOuterBlank).reverse).filter
    fun c => !isDropped c

/-- Letters of a scheme after the first. -/
def isSchemeChar (c : Char) : Bool :=
  c.isAlphanum || c == '+' || c == '-' || c == '.'

/-- The scheme, in small letters, and what follows its colon. -/
def scheme? (text : List Char) : Option (String × List Char) :=
  match text with
  | [] => none
  | first :: _ =>
      if first.isAlpha then
        match text.dropWhile isSchemeChar with
        | ':' :: rest =>
            some (String.ofList (Text.asciiLower (text.takeWhile isSchemeChar)), rest)
        | _ => none
      else
        none

/-- Characters that end an authority. -/
def endsAuthority (special : Bool) (c : Char) : Bool :=
  c == '/' || c == '?' || c == '#' || (special && c == '\\')

/-- A slash, or a backslash after a special scheme. -/
def isSlash (special : Bool) (c : Char) : Bool :=
  c == '/' || (special && c == '\\')

/-- User name, password and what follows the last at sign of an authority. Nothing may be
missing after a sign with nothing before it. -/
def userInfo? (special : Bool) (text : List Char) : Option (String × String × List Char) :=
  let authority := text.takeWhile fun c => !endsAuthority special c
  let after := text.dropWhile fun c => !endsAuthority special c
  match Text.cutLast '@' authority with
  | none => some ("", "", text)
  | some ([], host) => if host.isEmpty && !after.isEmpty then none else some ("", "", host ++ after)
  | some (info, host) =>
      let (username, password) := (Text.cutFirst ':' info).getD (info, [])
      some (String.ofList (encode userInfoSet username),
        String.ofList (encode userInfoSet password), host ++ after)

/-- The text of a host, up to its port or the end of the authority, and what follows. Inside
square brackets a colon is part of the host. -/
def splitHost (special : Bool) : Bool → List Char → List Char × List Char
  | _, [] => ([], [])
  | bracketed, c :: rest =>
      if (c == ':' && !bracketed) || endsAuthority special c then ([], c :: rest)
      else
        let inside := if c == '[' then true else if c == ']' then false else bracketed
        let parts := splitHost special inside rest
        (c :: parts.1, parts.2)

/-- Read a host. A special scheme needs one. -/
def host? (special : Bool) (text : List Char) : Option Host :=
  if special then
    if text.isEmpty then none else Host.special? text
  else
    Host.general? text

/-- Read the port after a host, and what follows it. -/
def port? (scheme : String) (text : List Char) : Option (Option Nat × List Char) :=
  match text with
  | ':' :: afterColon =>
      let row := afterColon.takeWhile Char.isDigit
      let rest := afterColon.dropWhile Char.isDigit
      let sound := match rest with
        | [] => true
        | c :: _ => c == '/' || c == '\\' || c == '?' || c == '#'
      match Host.numberIn? 10 row with
      | none => none
      | some port =>
          if !sound || 65535 < port then none
          else if row.isEmpty || defaultPort? scheme = some port then some (none, rest)
          else some (some port, rest)
  | rest => some (none, rest)

/-- A segment that stands for its own place. -/
def isSingleDot (segment : List Char) : Bool :=
  [".", "%2e"].contains (String.ofList (Text.asciiLower segment))

/-- A segment that stands for the place above. -/
def isDoubleDot (segment : List Char) : Bool :=
  ["..", ".%2e", "%2e.", "%2e%2e"].contains (String.ofList (Text.asciiLower segment))

/-- A letter and a colon or a bar. -/
def isDriveLetter : List Char → Bool
  | [letter, mark] => letter.isAlpha && (mark == ':' || mark == '|')
  | _ => false

/-- Remove the last segment, except for the drive letter of a file. -/
def shorten (isFile : Bool) (segments : List String) : List String :=
  match segments with
  | [drive] =>
      if isFile && isDriveLetter drive.toList && drive.toList.getLast? = some ':' then [drive]
      else []
  | segments => segments.dropLast

/-- Add a segment to a path; the last one is kept even if it is a dot. -/
def addSegment (isFile isLast : Bool) (segments : List String) (segment : List Char) :
    List String :=
  if isDoubleDot segment then
    let above := shorten isFile segments
    if isLast then above ++ [""] else above
  else if isSingleDot segment then
    if isLast then segments ++ [""] else segments
  else if isFile && segments.isEmpty && isDriveLetter segment then
    segments ++ [String.ofList (segment.take 1 ++ [':'])]
  else
    segments ++ [String.ofList segment]

/-- The pieces of a path between its slashes. -/
def pathPieces (special : Bool) (text : List Char) : List (List Char) :=
  Text.piecesAt '/' (text.map fun c => if isSlash special c then '/' else c)

/-- The segments of a path without its first slash. -/
def segments (special isFile : Bool) (text : List Char) : List String :=
  let pieces := (pathPieces special text).map (encode pathSet)
  let inner := pieces.dropLast.foldl (addSegment isFile false) []
  let all := match pieces.getLast? with
    | some last => addSegment isFile true inner last
    | none => inner
  if isFile then
    match all.dropWhile (·.isEmpty) with
    | [] => [""]
    | visible => visible
  else
    all

/-- The path after an authority. A special scheme always has one. -/
def pathAfterAuthority (special isFile : Bool) (text : List Char) : List String :=
  match text with
  | [] => if special then [""] else []
  | c :: rest => if isSlash special c then segments special isFile rest
      else segments special isFile (c :: rest)

/-- The text before the first question mark or number sign, the query and the fragment. -/
def splitTail (text : List Char) : List Char × Option (List Char) × Option (List Char) :=
  let (front, fragment) := match Text.cutFirst '#' text with
    | some (front, fragment) => (front, some fragment)
    | none => (text, none)
  match Text.cutFirst '?' front with
  | some (path, query) => (path, some query, fragment)
  | none => (front, none, fragment)

/-- Put query and fragment to a URL. -/
def withTail (url : Url) (query fragment : Option (List Char)) : Url :=
  let set := if isSpecial url.scheme then specialQuerySet else querySet
  { url with
    query := query.map fun text => String.ofList (encode set text)
    fragment := fragment.map fun text => String.ofList (encode fragmentSet text) }

/-- Read what follows the two slashes of an authority. -/
def afterSlashes? (scheme : String) (text : List Char) : Option Url := do
  let special := isSpecial scheme
  let (username, password, afterInfo) ← userInfo? special text
  let (hostText, afterHost) := splitHost special false afterInfo
  let host ← host? special hostText
  if host = .name "" && (afterHost.head? = some ':' || !(username.isEmpty && password.isEmpty)) then
    none
  else do
    let (port, rest) ← port? scheme afterHost
    let (path, query, fragment) := splitTail rest
    some (withTail
      { scheme := scheme
        username := username
        password := password
        host := some host
        port := port
        path := .segments (pathAfterAuthority special false path) } query fragment)

/-- Read what follows the scheme of a file. -/
def file? (text : List Char) : Option Url :=
  let (front, query, fragment) := splitTail text
  let build (host : Host) (path : List Char) : Url :=
    withTail { scheme := "file", host := some host, path := .segments (segments true true path) }
      query fragment
  match front with
  | a :: b :: rest =>
      if isSlash true a && isSlash true b then
        let hostText := rest.takeWhile fun c => !isSlash true c
        let path := rest.dropWhile fun c => !isSlash true c
        if isDriveLetter hostText then some (build (.name "") rest)
        else if hostText.isEmpty then some (build (.name "") (path.drop 1))
        else
          (Host.special? hostText).map fun host =>
            let host := if host = .name "localhost" then .name "" else host
            let drive := match pathPieces true (path.drop 1) with
              | first :: _ => isDriveLetter first
              | [] => false
            build (if drive then .name "" else host) (path.drop 1)
      else if isSlash true a then some (build (.name "") (b :: rest))
      else some (build (.name "") front)
  | [a] => some (build (.name "") (if isSlash true a then [] else [a]))
  | [] => some (build (.name "") [])

/-- Read what follows a scheme without slashes of an authority. -/
def withoutAuthority (scheme : String) (text : List Char) : Url :=
  let (front, query, fragment) := splitTail text
  let path : Path := match front with
    | '/' :: rest => .segments (segments false false rest)
    | front => .plain (String.ofList (encode plainPathSet front))
  withTail { scheme := scheme, path := path } query fragment

end Reader

/-- Read an absolute URL. -/
def parse? (text : String) : Option Url := do
  let (scheme, rest) ← Reader.scheme? (Reader.clean text.toList)
  if scheme = "file" then
    Reader.file? rest
  else if isSpecial scheme then
    Reader.afterSlashes? scheme (rest.dropWhile (Reader.isSlash true))
  else
    match rest with
    | '/' :: '/' :: authority => Reader.afterSlashes? scheme authority
    | rest => some (Reader.withoutAuthority scheme rest)

end Url
end Delegation
