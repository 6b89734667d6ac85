import Delegation.Url.Host

/-!
# URLs

The parts of an absolute URL and its written form. The path is a list of segments, or a
plain text where the scheme is followed by neither an authority nor a slash.
-/

namespace Delegation

namespace Url

/-- The path of a URL. -/
inductive Path
  /-- Segments, each written after a slash. -/
  | segments (list : List String)
  /-- A text without structure. -/
  | plain (text : String)
  deriving DecidableEq

namespace Path

/-- The written form of a path. -/
def render : Path → String
  | segments list => String.join (list.map ("/" ++ ·))
  | plain text => text

/-- The path with an empty segment at its end, as if a slash were added unless it ends in
one. A plain path takes the slash as text; an empty one takes it encoded, for it would else
start a list of segments. -/
def closed : Path → Path
  | segments list => if list.getLast? = some "" then segments list else segments (list ++ [""])
  | plain text =>
      if text.isEmpty then plain "%2F"
      else if text.endsWith "/" then plain text
      else plain (text ++ "/")

end Path
end Url

/-- An absolute URL. -/
structure Url where
  /-- The scheme, in small letters. -/
  scheme : String
  /-- The user name, encoded; empty if there is none. -/
  username : String := ""
  /-- The password, encoded; empty if there is none. -/
  password : String := ""
  /-- The host, where there is an authority. -/
  host : Option Url.Host := none
  /-- The port, unless it is the scheme's own. -/
  port : Option Nat := none
  /-- The path. -/
  path : Url.Path
  /-- The query, encoded. -/
  query : Option String := none
  /-- The fragment, encoded. -/
  fragment : Option String := none
  deriving DecidableEq

namespace Url

/-- Schemes whose URLs always have an authority and whose backslashes are slashes. -/
def isSpecial (scheme : String) : Bool :=
  ["http", "https", "ws", "wss", "ftp", "file"].contains scheme

/-- The port that a scheme uses unless another one is named. -/
def defaultPort? (scheme : String) : Option Nat :=
  match scheme with
  | "http" => some 80
  | "https" => some 443
  | "ws" => some 80
  | "wss" => some 443
  | "ftp" => some 21
  | _ => none

/-- User name and password before the host. -/
def renderUserInfo (url : Url) : String :=
  if url.username.isEmpty && url.password.isEmpty then ""
  else if url.password.isEmpty then url.username ++ "@"
  else url.username ++ ":" ++ url.password ++ "@"

/-- The authority with its slashes. Without an authority, a path that starts with an empty
segment is kept apart from one by a dot. -/
def renderAuthority (url : Url) : String :=
  match url.host with
  | some host =>
      "//" ++ url.renderUserInfo ++ host.render ++
        (match url.port with
         | some port => ":" ++ toString port
         | none => "")
  | none =>
      match url.path with
      | .segments ("" :: _ :: _) => "/."
      | _ => ""

/-- A text after a mark, or nothing. -/
def renderAfter (mark : String) : Option String → String
  | some text => mark ++ text
  | none => ""

/-- The written form of a URL. -/
def render (url : Url) : String :=
  url.scheme ++ ":" ++ url.renderAuthority ++ url.path.render ++
    renderAfter "?" url.query ++ renderAfter "#" url.fragment

/-- What a request for the URL names: its path and its query. -/
def target (url : Url) : String :=
  url.path.render ++ renderAfter "?" url.query

/-- The same URL with a slash at the end of its path. -/
def closed (url : Url) : Url :=
  { url with path := url.path.closed }

/-- The URL that a single name stands for next to this one: the last segment gives way to
the name, and query and fragment are dropped. A plain path has no neighbours. -/
def sibling? (url : Url) (name : String) : Option Url :=
  match url.path with
  | .segments list =>
      some { url with
        path := .segments (list.dropLast ++ [name])
        query := none
        fragment := none }
  | .plain _ => none

/-- The same URL with a parameter as its only query. -/
def withParameter (url : Url) (key value : String) : Url :=
  { url with query := some (key ++ "=" ++ value) }

end Url
end Delegation
