import Mathlib.Data.List.TakeWhile
import Delegation.Proofs.Text.Cutting
import Delegation.Url.Reader

/-!
# Web addresses

An address of the web consists of its scheme, slashes and an authority. What follows is its path,
its query and its fragment, and the part before is read the same whatever follows.
-/

namespace Delegation
namespace Url
namespace Reader

variable {scheme username password : String} {text authority tail : List Char} {url : Url}

/-- A text in which no authority ends. -/
def IsAuthority (text : List Char) : Prop :=
  ∀ c ∈ text, endsAuthority true c = false

/-- What can follow an authority: nothing, or what starts with a character that ends it. -/
def FollowsAuthority (tail : List Char) : Prop :=
  ∀ c, tail.head? = some c → endsAuthority true c = true

/-- A web address with the path, the query and the fragment that are read from a text. -/
def withRest (url : Url) (rest : List Char) : Url :=
  withTail { url with path := .segments (pathAfterAuthority true false (splitTail rest).1) }
    (splitTail rest).2.1 (splitTail rest).2.2

theorem followsAuthority_nil : FollowsAuthority [] := nofun

/-! ## User information -/

theorem takeWhile_authority
    (whole : IsAuthority authority)
    (follows : FollowsAuthority tail) :
    ((authority ++ tail).takeWhile fun c => !endsAuthority true c) = authority :=
  Text.takeWhile_append_of_stop (fun c inside => by rw [whole c inside]; rfl)
    fun c starts => by rw [follows c starts]; rfl

theorem dropWhile_authority
    (whole : IsAuthority authority)
    (follows : FollowsAuthority tail) :
    ((authority ++ tail).dropWhile fun c => !endsAuthority true c) = tail :=
  Text.dropWhile_append_of_stop (fun c inside => by rw [whole c inside]; rfl)
    fun c starts => by rw [follows c starts]; rfl

/-- What follows the authority has no part in the reading of the user information. -/
theorem userInfo?_append
    (whole : IsAuthority authority)
    (follows : FollowsAuthority tail)
    (other : authority ≠ ['@']) :
    userInfo? true (authority ++ tail) =
      (userInfo? true authority).map fun info => (info.1, info.2.1, info.2.2 ++ tail) := by
  have alone := @takeWhile_authority authority [] whole followsAuthority_nil
  have aloneAfter := @dropWhile_authority authority [] whole followsAuthority_nil
  rw [List.append_nil] at alone aloneAfter
  simp only [userInfo?, takeWhile_authority whole follows, dropWhile_authority whole follows,
    alone, aloneAfter]
  cases cut : Text.cutLast '@' authority with
  | none => rfl
  | some parts =>
      obtain ⟨_ | ⟨c, info⟩, host⟩ := parts
      · -- Nothing around the sign is read alone and refused before a path, so it is left out.
        have filled : host ≠ [] := by
          rintro rfl
          exact other (Text.cutLast_eq_some_iff.mp cut).1
        simp [filled]
      · simp

/-- What is left after the user information is the end of the text. -/
theorem suffix_of_userInfo?
    {special : Bool}
    {info : String × String × List Char}
    (read : userInfo? special text = some info) :
    info.2.2 <:+ text := by
  have cut := @List.takeWhile_append_dropWhile _ (fun c => !endsAuthority special c) text
  have suffix
      {front host : List Char}
      (found : Text.cutLast '@' (text.takeWhile fun c => !endsAuthority special c) =
        some (front, host)) :
      host ++ (text.dropWhile fun c => !endsAuthority special c) <:+ text := by
    rw [(Text.cutLast_eq_some_iff.mp found).1] at cut
    exact ⟨front ++ ['@'], by simpa using cut⟩
  simp only [userInfo?] at read
  split at read
  · obtain rfl := Option.some.inj read
    exact List.suffix_rfl
  · rename_i host found
    split at read
    · contradiction
    · rw [← Option.some.inj read]
      exact suffix found
  · rename_i found
    rw [← Option.some.inj read]
    exact suffix found

/-! ## Host and port -/

theorem splitHost_tail
    (follows : FollowsAuthority tail)
    (bracketed : Bool) :
    splitHost true bracketed tail = ([], tail) := by
  cases tail with
  | nil => rfl
  | cons c tail => simp [splitHost, follows c rfl]

/-- What follows the authority has no part in the reading of the host. -/
theorem splitHost_append
    (whole : IsAuthority text)
    (follows : FollowsAuthority tail)
    (bracketed : Bool) :
    splitHost true bracketed (text ++ tail) =
      ((splitHost true bracketed text).1, (splitHost true bracketed text).2 ++ tail) := by
  induction text generalizing bracketed with
  | nil => exact splitHost_tail follows bracketed
  | cons c text inductionHypothesis =>
      have later : IsAuthority text := fun d inside => whole d (List.mem_cons_of_mem c inside)
      rw [List.cons_append, splitHost, splitHost]
      split
      · rfl
      · simp only [inductionHypothesis later]

/-- Where a host ends in an authority, there is nothing more or a port. -/
theorem portText_of_isAuthority
    (whole : IsAuthority text)
    (bracketed : Bool) :
    (splitHost true bracketed text).2 = [] ∨
      ∃ row, (splitHost true bracketed text).2 = ':' :: row ∧ IsAuthority row := by
  induction text generalizing bracketed with
  | nil => exact .inl rfl
  | cons c text inductionHypothesis =>
      have later : IsAuthority text := fun d inside => whole d (List.mem_cons_of_mem c inside)
      rw [splitHost]
      split
      · rename_i stops
        obtain ⟨rfl, -⟩ : c = ':' ∧ bracketed = false := by
          simpa [whole c List.mem_cons_self] using stops
        exact .inr ⟨text, rfl, later⟩
      · exact inductionHypothesis later _

theorem endsAuthority_iff
    {c : Char} :
    endsAuthority true c = true ↔ c = '/' ∨ c = '?' ∨ c = '#' ∨ c = '\\' := by
  simp [endsAuthority, or_assoc]

theorem endsAuthority_of_isSlash
    {c : Char}
    (slash : isSlash true c = true) :
    endsAuthority true c = true := by
  obtain rfl | rfl : c = '/' ∨ c = '\\' := by simpa [isSlash] using slash
  all_goals rfl

theorem isDigit_of_endsAuthority
    {c : Char}
    (ends : endsAuthority true c = true) :
    c.isDigit = false := by
  rcases endsAuthority_iff.mp ends with rfl | rfl | rfl | rfl <;> rfl

theorem port?_tail (follows : FollowsAuthority tail) : port? scheme tail = some (none, tail) := by
  unfold port?
  split
  · rename_i row
    exact absurd (follows ':' rfl) (by decide)
  · rfl

/-- The port that digits after a colon stand for. -/
theorem port?_of_digits
    {row : List Char}
    (digits : ∀ c ∈ row, c.isDigit = true)
    (follows : FollowsAuthority tail) :
    port? scheme (':' :: (row ++ tail)) =
      (Host.numberIn? 10 row).bind fun port =>
        if 65535 < port then none
        else if row.isEmpty || defaultPort? scheme = some port then some (none, tail)
        else some (some port, tail) := by
  have stops : ∀ c, tail.head? = some c → c.isDigit = false :=
    fun c starts => isDigit_of_endsAuthority (follows c starts)
  have taken : (row ++ tail).takeWhile Char.isDigit = row :=
    Text.takeWhile_append_of_stop digits stops
  have left : (row ++ tail).dropWhile Char.isDigit = tail :=
    Text.dropWhile_append_of_stop digits stops
  simp only [port?, taken, left]
  cases Host.numberIn? 10 row with
  | none => rfl
  | some port =>
      cases tail with
      | nil => simp
      | cons c tail =>
          rcases endsAuthority_iff.mp (follows c rfl) with rfl | rfl | rfl | rfl <;> simp

/-- After a colon, nothing but digits can stand before the end of an authority. -/
theorem port?_of_stray
    {row : List Char}
    {c : Char}
    (digits : ∀ c ∈ row, c.isDigit = true)
    (noDigit : c.isDigit = false)
    (inside : endsAuthority true c = false)
    (rest : List Char) :
    port? scheme (':' :: (row ++ c :: rest)) = none := by
  have left : (row ++ c :: rest).dropWhile Char.isDigit = c :: rest := by
    rw [List.dropWhile_append_of_pos digits, List.dropWhile_cons_of_neg (by simp [noDigit])]
  have unsound : (c == '/' || c == '\\' || c == '?' || c == '#') = false := by
    rw [Bool.eq_false_iff, ne_eq, endsAuthority_iff] at inside
    simpa [and_assoc, and_comm, and_left_comm] using inside
  simp only [port?, left, unsound]
  cases Host.numberIn? 10 ((row ++ c :: rest).takeWhile Char.isDigit) <;> rfl

/-- What follows the authority has no part in the reading of the port. -/
theorem port?_append
    (whole : IsAuthority text)
    (follows : FollowsAuthority tail) :
    port? scheme (':' :: text ++ tail) =
      (port? scheme (':' :: text)).map fun port => (port.1, tail) := by
  have digits : ∀ c ∈ text.takeWhile Char.isDigit, c.isDigit = true :=
    fun c inside => List.mem_takeWhile_imp inside
  have cut := @List.takeWhile_append_dropWhile _ Char.isDigit text
  have stops := List.head?_dropWhile_not Char.isDigit text
  -- What the digits end at is the end of the authority, or refused with and without a tail.
  cases rest : text.dropWhile Char.isDigit with
  | nil =>
      rw [rest, List.append_nil] at cut
      rw [cut] at digits
      have alone := @port?_of_digits scheme [] text digits followsAuthority_nil
      rw [List.append_nil] at alone
      rw [List.cons_append, port?_of_digits digits follows, alone, Option.map_bind]
      refine Option.bind_congr fun port _ => ?_
      simp only [Function.comp_apply]
      split
      · rfl
      split <;> rfl
  | cons c rest =>
      rw [rest] at cut stops
      have inside : endsAuthority true c = false := whole c <| by
        rw [← cut]
        exact List.mem_append_right _ List.mem_cons_self
      rw [← cut, List.cons_append, List.append_assoc, List.cons_append,
        port?_of_stray digits stops inside, port?_of_stray digits stops inside]
      rfl

theorem head?_portText_append
    (whole : IsAuthority text)
    (follows : FollowsAuthority tail)
    (bracketed : Bool) :
    ((splitHost true bracketed text).2 ++ tail).head? = some ':' ↔
      (splitHost true bracketed text).2.head? = some ':' := by
  obtain none | ⟨row, found, -⟩ := portText_of_isAuthority whole bracketed
  · have start : tail.head? ≠ some ':' := fun colon => absurd (follows ':' colon) (by decide)
    simp [none, start]
  · simp [found]

theorem port?_portText_append
    (whole : IsAuthority text)
    (follows : FollowsAuthority tail)
    (bracketed : Bool) :
    port? scheme ((splitHost true bracketed text).2 ++ tail) =
      (port? scheme (splitHost true bracketed text).2).map fun port => (port.1, tail) := by
  obtain none | ⟨row, found, digits⟩ := portText_of_isAuthority whole bracketed
  · rw [none, List.nil_append, port?_tail follows]
    rfl
  · rw [found, port?_append digits follows]

/-! ## The authority -/

/-- Read what follows the user information. -/
def afterUserInfo? (scheme username password : String) (text : List Char) : Option Url := do
  let special := isSpecial scheme
  let (hostText, afterHost) := splitHost special false text
  let host ← host? special hostText
  if host = .name "" && (afterHost.head? = some ':' || !(username.isEmpty && password.isEmpty)) then
    none
  else do
    let (port, rest) ← port? scheme afterHost
    let (path, query, fragment) := splitTail rest
    some (withTail
      { scheme := scheme
        username := username
        password := password
        host := some host
        port := port
        path := .segments (pathAfterAuthority special false path) } query fragment)

theorem afterSlashes?_eq (scheme : String) (text : List Char) :
    afterSlashes? scheme text =
      (userInfo? (isSpecial scheme) text).bind fun info =>
        afterUserInfo? scheme info.1 info.2.1 info.2.2 :=
  rfl

/-- What follows the authority is read into the address that the authority alone gives. -/
theorem afterUserInfo?_append
    (special : isSpecial scheme = true)
    (whole : IsAuthority text)
    (follows : FollowsAuthority tail) :
    afterUserInfo? scheme username password (text ++ tail) =
      (afterUserInfo? scheme username password text).map fun url => withRest url tail := by
  simp only [afterUserInfo?, special, splitHost_append whole follows,
    head?_portText_append whole follows, port?_portText_append whole follows]
  cases host? true (splitHost true false text).1 with
  | none => rfl
  | some host =>
      dsimp only [Option.bind_eq_bind, Option.bind_some]
      split
      · rfl
      · cases port? scheme (splitHost true false text).2 <;> rfl

theorem afterUserInfo?_nil (special : isSpecial scheme = true) :
    afterUserInfo? scheme username password [] = none := by
  simp only [afterUserInfo?, special]
  rfl

theorem afterSlashes?_nil (special : isSpecial scheme = true) : afterSlashes? scheme [] = none := by
  rw [afterSlashes?_eq, special]
  exact afterUserInfo?_nil special

/-- An at sign alone is no authority. -/
theorem afterSlashes?_at
    (special : isSpecial scheme = true)
    (follows : FollowsAuthority tail) :
    afterSlashes? scheme ('@' :: tail) = none := by
  have whole : IsAuthority ['@'] := by simp [IsAuthority, endsAuthority]
  have taken := takeWhile_authority whole follows
  have left := dropWhile_authority whole follows
  rw [List.singleton_append] at taken left
  have cut : Text.cutLast '@' ['@'] = some ([], []) := rfl
  simp only [afterSlashes?_eq, special, userInfo?, taken, left, cut]
  cases tail with
  | nil => exact afterUserInfo?_nil special
  | cons c tail => rfl

/-- An authority is read the same whatever follows it. -/
theorem afterSlashes?_append
    (special : isSpecial scheme = true)
    (whole : IsAuthority authority)
    (follows : FollowsAuthority tail) :
    afterSlashes? scheme (authority ++ tail) =
      (afterSlashes? scheme authority).map fun url => withRest url tail := by
  by_cases alone : authority = ['@']
  · rw [alone, List.singleton_append, afterSlashes?_at special follows,
      afterSlashes?_at special followsAuthority_nil]
    rfl
  · rw [afterSlashes?_eq, afterSlashes?_eq, special, userInfo?_append whole follows alone,
      Option.bind_map, Option.map_bind]
    refine Option.bind_congr fun info read => ?_
    have later : IsAuthority info.2.2 :=
      fun c inside => whole c ((suffix_of_userInfo? read).subset inside)
    exact afterUserInfo?_append special later follows

/-- What is read starts with an authority. -/
theorem exists_authority
    (special : isSpecial scheme = true)
    (read : afterSlashes? scheme text = some url) :
    ∃ authority tail bare, text = authority ++ tail ∧ IsAuthority authority ∧ authority ≠ [] ∧
      FollowsAuthority tail ∧ afterSlashes? scheme authority = some bare := by
  have cut := @List.takeWhile_append_dropWhile _ (fun c => !endsAuthority true c) text
  have stops := List.head?_dropWhile_not (fun c => !endsAuthority true c) text
  have whole : IsAuthority (text.takeWhile fun c => !endsAuthority true c) := by
    intro c inside
    simpa using List.mem_takeWhile_imp inside
  have follows : FollowsAuthority (text.dropWhile fun c => !endsAuthority true c) := by
    intro c starts
    rw [starts] at stops
    simpa using stops
  have parts := afterSlashes?_append special whole follows
  rw [cut, read] at parts
  obtain ⟨bare, alone, -⟩ := Option.map_eq_some_iff.mp parts.symm
  refine ⟨_, _, bare, cut.symm, whole, ?_, follows, alone⟩
  intro empty
  rw [empty, afterSlashes?_nil special] at alone
  nomatch alone

/-- Slashes end where an authority starts. -/
theorem dropWhile_slashes
    {slashes : List Char}
    (allSlashes : ∀ c ∈ slashes, isSlash true c = true)
    (whole : IsAuthority authority)
    (filled : authority ≠ [])
    (tail : List Char) :
    (slashes ++ (authority ++ tail)).dropWhile (isSlash true) = authority ++ tail := by
  obtain ⟨c, authority, rfl⟩ := List.exists_cons_of_ne_nil filled
  have noSlash : ¬ isSlash true c = true := fun slash => by
    have ends := endsAuthority_of_isSlash slash
    rw [whole c List.mem_cons_self] at ends
    nomatch ends
  rw [List.dropWhile_append_of_pos allSlashes, List.cons_append,
    List.dropWhile_cons_of_neg noSlash]

/-! ## The scheme -/

/-- A letter and what a scheme allows, up to a colon, are the scheme, in small letters. -/
theorem scheme?_cons_append
    {first : Char}
    {word : List Char}
    (letter : first.isAlpha = true)
    (allowed : ∀ c ∈ first :: word, isSchemeChar c = true)
    (rest : List Char) :
    scheme? (first :: word ++ ':' :: rest) =
      some (String.ofList (Text.asciiLower (first :: word)), rest) := by
  have taken : (first :: word ++ ':' :: rest).takeWhile isSchemeChar = first :: word := by
    rw [List.takeWhile_append_of_pos allowed, List.takeWhile_cons_of_neg (by decide),
      List.append_nil]
  have left : (first :: word ++ ':' :: rest).dropWhile isSchemeChar = ':' :: rest := by
    rw [List.dropWhile_append_of_pos allowed, List.dropWhile_cons_of_neg (by decide)]
  rw [List.cons_append] at taken left ⊢
  simp [scheme?, letter, taken, left]

/-- A scheme and its colon are read the same whatever follows them. -/
theorem scheme?_eq_some
    {rest : List Char}
    (read : scheme? text = some (scheme, rest)) :
    ∃ word, text = word ++ ':' :: rest ∧ (∀ c ∈ word, isSchemeChar c = true) ∧
      ∀ other, scheme? (word ++ ':' :: other) = some (scheme, other) := by
  cases text with
  | nil => nomatch read
  | cons first text =>
      have cut := @List.takeWhile_append_dropWhile _ isSchemeChar (first :: text)
      cases letter : first.isAlpha with
      | false => simp [scheme?, letter] at read
      | true =>
          have starts : isSchemeChar first = true := by simp [isSchemeChar, Char.isAlphanum, letter]
          have taken := @List.takeWhile_cons_of_pos _ isSchemeChar first text starts
          have allowed : ∀ c ∈ first :: text.takeWhile isSchemeChar, isSchemeChar c = true := by
            rw [← taken]
            exact fun c inside => List.mem_takeWhile_imp inside
          simp only [scheme?, letter, if_true] at read
          split at read
          · rename_i left
            rw [taken] at cut read
            obtain ⟨rfl, rfl⟩ := Prod.mk.inj (Option.some.inj read)
            exact ⟨_, (left ▸ cut).symm, allowed, scheme?_cons_append letter allowed⟩
          · contradiction

theorem scheme_of_file?
    (read : file? text = some url) :
    url.scheme = "file" := by
  simp only [file?] at read
  -- All cases build the same kind of address, those with a host after reading it.
  repeat' split at read
  all_goals
    first
    | obtain rfl := Option.some.inj read
      rfl
    | obtain ⟨host, -, rfl⟩ := Option.map_eq_some_iff.mp read
      rfl

theorem scheme_of_afterSlashes?
    (read : afterSlashes? scheme text = some url) :
    url.scheme = scheme := by
  simp only [afterSlashes?, Option.bind_eq_bind, Option.bind_eq_some_iff] at read
  obtain ⟨info, -, host, -, rest⟩ := read
  split at rest
  · contradiction
  · obtain ⟨port, -, same⟩ := Option.bind_eq_some_iff.mp rest
    rw [← Option.some.inj same]
    rfl

end Reader

open Reader

variable {scheme text : String} {url : Url}

theorem isSpecial_of_web (web : scheme ∈ ["http", "https"]) : isSpecial scheme = true := by
  obtain rfl | rfl : scheme = "http" ∨ scheme = "https" := by simpa using web
  all_goals rfl

/-- A text of a web scheme is read from behind the slashes that follow the colon. -/
theorem parse?_of_web
    {rest : List Char}
    (web : scheme ∈ ["http", "https"])
    (read : scheme? (clean text.toList) = some (scheme, rest)) :
    parse? text = afterSlashes? scheme (rest.dropWhile (isSlash true)) := by
  have noFile : scheme ≠ "file" := by
    rintro rfl
    exact absurd web (by decide)
  simp [parse?, read, noFile, isSpecial_of_web web]

/-- What is read as a web address has the scheme of one. -/
theorem scheme?_of_parse?
    (read : parse? text = some url)
    (web : url.scheme ∈ ["http", "https"]) :
    ∃ rest, scheme? (clean text.toList) = some (url.scheme, rest) := by
  simp only [parse?, Option.bind_eq_bind, Option.bind_eq_some_iff] at read
  obtain ⟨⟨scheme, rest⟩, first, read⟩ := read
  refine ⟨rest, ?_⟩
  rw [first]
  dsimp only at read
  by_cases file : scheme = "file"
  · rw [if_pos file] at read
    rw [scheme_of_file? read] at web
    exact absurd web (by decide)
  by_cases special : isSpecial scheme = true
  · rw [if_neg file, if_pos special] at read
    rw [scheme_of_afterSlashes? read]
  rw [if_neg file, if_neg special] at read
  split at read
  · rw [scheme_of_afterSlashes? read]
  · rw [← Option.some.inj read]
    rfl

/-- A question mark or a number sign. -/
def endsPath (c : Char) : Bool :=
  c == '?' || c == '#'

/-- A text is read as the beginning of a web address, up to the end of its authority, whatever
follows. -/
structure Leads (lead : List Char) (bare : Url) : Prop where
  web : bare.scheme ∈ ["http", "https"]
  /-- The path does not end before it starts. -/
  whole : ∀ c ∈ lead, endsPath c = false
  read : ∀ text tail, FollowsAuthority tail → clean text.toList = lead ++ tail →
    parse? text = some (withRest bare tail)

/-- A web address consists of its beginning and what follows the authority. -/
theorem exists_leads
    (read : parse? text = some url)
    (web : url.scheme ∈ ["http", "https"]) :
    ∃ lead bare tail, clean text.toList = lead ++ tail ∧ FollowsAuthority tail ∧
      Leads lead bare ∧ url = withRest bare tail := by
  obtain ⟨rest, first⟩ := scheme?_of_parse? read web
  have special := isSpecial_of_web web
  rw [parse?_of_web web first] at read
  obtain ⟨word, text_eq, allowed, sameScheme⟩ := scheme?_eq_some first
  obtain ⟨authority, tail, bare, rest_eq, whole, filled, follows, alone⟩ :=
    exists_authority special read
  have cut := @List.takeWhile_append_dropWhile _ (isSlash true) rest
  have slashes : ∀ c ∈ rest.takeWhile (isSlash true), isSlash true c = true :=
    fun c inside => List.mem_takeWhile_imp inside
  generalize rest.takeWhile (isSlash true) = before at cut slashes
  rw [rest_eq] at cut
  refine ⟨word ++ ':' :: (before ++ authority), bare, tail, ?_, follows, ⟨?_, ?_, ?_⟩, ?_⟩
  · rw [text_eq, ← cut]
    simp
  · rwa [scheme_of_afterSlashes? alone]
  · -- Neither mark is a letter of a scheme or a slash, and both end an authority.
    intro c inside
    refine Bool.eq_false_iff.mpr fun ends => ?_
    have mark : c = '?' ∨ c = '#' := by simpa [endsPath] using ends
    have sorted : c ∈ word ∨ c = ':' ∨ c ∈ before ∨ c ∈ authority := by simpa using inside
    rcases sorted with member | rfl | member | member
    · have letter := allowed c member
      rcases mark with rfl | rfl <;> exact absurd letter (by decide)
    · simp at mark
    · have slash := slashes c member
      rcases mark with rfl | rfl <;> exact absurd slash (by decide)
    · have inner := whole c member
      rcases mark with rfl | rfl <;> exact absurd inner (by decide)
  · intro other next nextFollows other_eq
    have again : scheme? (clean other.toList) =
        some (url.scheme, before ++ (authority ++ next)) := by
      rw [other_eq, ← sameScheme]
      simp
    rw [parse?_of_web web again, dropWhile_slashes slashes whole filled,
      afterSlashes?_append special whole nextFollows, alone]
    rfl
  · rw [rest_eq, afterSlashes?_append special whole follows, alone] at read
    exact (Option.some.inj read).symm

end Url
end Delegation
