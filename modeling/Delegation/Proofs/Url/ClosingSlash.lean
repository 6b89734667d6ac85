import Delegation.Proofs.Url.Segments
import Delegation.Proofs.Url.WebAddress

/-!
# A slash at the end of a path

To close a web address is to write a slash behind its path, unless one is there, and to read the
path again. A text and the one with such a slash added at the end of its path stand for addresses
that are the same once they are closed. Query and fragment stay behind the slash.
-/

namespace Delegation
namespace Url

open Reader

/-- A text up to the end of its path. -/
def frontOf (text : List Char) : List Char :=
  text.takeWhile fun c => !endsPath c

/-- The query and the fragment of a text, with their marks. -/
def tailOf (text : List Char) : List Char :=
  text.dropWhile fun c => !endsPath c

/-- One text is the other with one slash added at the end of its path, as far as its characters
count. -/
def AddsSlash (text other : String) : Prop :=
  clean other.toList = frontOf (clean text.toList) ++ '/' :: tailOf (clean text.toList)

/-- The path of a text does not end with a slash. -/
def EndsOpen (text : String) : Prop :=
  IsOpen (frontOf (clean text.toList))

/-- What can follow a path: nothing, or a query or a fragment. -/
def FollowsPath (tail : List Char) : Prop :=
  ∀ c, tail.head? = some c → endsPath c = true

variable {text other : String} {url bare : Url} {head tail : List Char}

/-! ## Path, query and fragment -/

theorem frontOf_append_tailOf (text : List Char) : frontOf text ++ tailOf text = text :=
  List.takeWhile_append_dropWhile

theorem endsPath_of_mem_frontOf
    {c : Char}
    (inside : c ∈ frontOf tail) :
    endsPath c = false := by
  simpa using List.mem_takeWhile_imp inside

theorem followsPath_tailOf (text : List Char) : FollowsPath (tailOf text) := by
  intro c starts
  have stops := List.head?_dropWhile_not (fun c => !endsPath c) text
  rw [← tailOf, starts] at stops
  simpa using stops

theorem frontOf_append (whole : ∀ c ∈ head, endsPath c = false) :
    frontOf (head ++ tail) = head ++ frontOf tail :=
  List.takeWhile_append_of_pos fun c inside => by simp [whole c inside]

theorem tailOf_append (whole : ∀ c ∈ head, endsPath c = false) :
    tailOf (head ++ tail) = tailOf tail :=
  List.dropWhile_append_of_pos fun c inside => by simp [whole c inside]

/-- What cannot end a path stays in the path when the query and the fragment are cut off. -/
theorem splitTail_append
    (whole : ∀ c ∈ head, endsPath c = false)
    (tail : List Char) :
    splitTail (head ++ tail) = (head ++ (splitTail tail).1, (splitTail tail).2) := by
  have noQuery : '?' ∉ head := fun inside => absurd (whole '?' inside) (by decide)
  have noFragment : '#' ∉ head := fun inside => absurd (whole '#' inside) (by decide)
  unfold splitTail
  rw [Text.cutFirst_append noFragment]
  cases Text.cutFirst '#' tail with
  | none =>
      dsimp only [Option.map_none]
      rw [Text.cutFirst_append noQuery]
      cases Text.cutFirst '?' tail <;> rfl
  | some parts =>
      dsimp only [Option.map_some]
      rw [Text.cutFirst_append noQuery]
      cases Text.cutFirst '?' parts.1 <;> rfl

theorem splitTail_of_followsPath (follows : FollowsPath tail) : (splitTail tail).1 = [] := by
  cases tail with
  | nil => rfl
  | cons c tail =>
      have mark : c = '?' ∨ c = '#' := by simpa [endsPath] using follows c rfl
      rcases mark with rfl | rfl
      · cases cut : Text.cutFirst '#' tail <;> simp [splitTail, Text.cutFirst, cut]
      · simp [splitTail, Text.cutFirst]

/-- What follows an authority is a path, and then query and fragment. -/
theorem withRest_append
    (whole : ∀ c ∈ head, endsPath c = false)
    (follows : FollowsPath tail) :
    withRest bare (head ++ tail) =
      { withRest bare tail with path := .segments (pathAfterAuthority true false head) } := by
  rw [withRest, splitTail_append whole, splitTail_of_followsPath follows, List.append_nil]
  rfl

/-- The path is read from the front of what follows the authority, everything else from its tail.
-/
theorem withRest_eq (bare : Url) (tail : List Char) :
    withRest bare tail =
      { withRest bare (tailOf tail) with
        path := .segments (pathAfterAuthority true false (frontOf tail)) } := by
  rw [← withRest_append (fun _ => endsPath_of_mem_frontOf) (followsPath_tailOf tail),
    frontOf_append_tailOf]

/-! ## The added slash -/

theorem isOpen_of_append
    (isOpen : IsOpen (head ++ tail)) :
    IsOpen tail := by
  intro c ends
  refine isOpen c ?_
  rw [List.getLast?_append, ends]
  rfl

/-- A slash before query and fragment makes no difference once an address is closed. -/
theorem closed_withRest_addsSlash (isOpen : IsOpen (frontOf tail)) :
    (withRest bare (frontOf tail ++ '/' :: tailOf tail)).closed = (withRest bare tail).closed := by
  have longer : ∀ c ∈ frontOf tail ++ ['/'], endsPath c = false := by
    intro c inside
    rcases List.mem_append.mp inside with member | last
    · exact endsPath_of_mem_frontOf member
    · obtain rfl := List.mem_singleton.mp last
      rfl
  rw [List.append_cons, withRest_append longer (followsPath_tailOf tail), withRest_eq bare tail]
  simp only [closed, closed_pathAfterAuthority_append_slash isOpen]

theorem head?_addsSlash
    {c : Char}
    (starts : (frontOf tail ++ '/' :: tailOf tail).head? = some c) :
    c = '/' ∨ tail.head? = some c := by
  cases front : frontOf tail with
  | nil =>
      rw [front] at starts
      exact .inl (Option.some.inj starts).symm
  | cons d rest =>
      rw [front] at starts
      rw [← frontOf_append_tailOf tail, front]
      exact .inr starts

/-- What follows an authority still does so with a slash added to its path. -/
theorem followsAuthority_addsSlash (follows : FollowsAuthority tail) :
    FollowsAuthority (frontOf tail ++ '/' :: tailOf tail) := by
  intro c starts
  rcases head?_addsSlash starts with rfl | same
  · rfl
  · exact follows c same

/-- Texts that a slash at the end of the path tells apart stand for web addresses that are the
same once they are closed. -/
theorem closed_of_addsSlash
    (read : parse? text = some url)
    (web : url.scheme ∈ ["http", "https"])
    (isOpen : EndsOpen text)
    (adds : AddsSlash text other) :
    ∃ otherUrl, parse? other = some otherUrl ∧ otherUrl.closed = url.closed := by
  obtain ⟨lead, bare, tail, text_eq, follows, leads, rfl⟩ := exists_leads read web
  rw [AddsSlash, text_eq, frontOf_append leads.whole, tailOf_append leads.whole,
    List.append_assoc] at adds
  rw [EndsOpen, text_eq, frontOf_append leads.whole] at isOpen
  refine ⟨_, leads.read other _ (followsAuthority_addsSlash follows) adds, ?_⟩
  exact closed_withRest_addsSlash (isOpen_of_append isOpen)

/-! ## Texts with a slash added -/

/-- A text in which every character counts. -/
structure IsClean (text : List Char) : Prop where
  kept : ∀ c ∈ text, isDropped c = false
  head : ∀ c, text.head? = some c → isOuterBlank c = false
  last : ∀ c, text.getLast? = some c → isOuterBlank c = false

theorem isOuterBlank_of_isDropped
    {c : Char}
    (dropped : isDropped c = true) :
    isOuterBlank c = true := by
  obtain (rfl | rfl) | rfl : (c = '\t' ∨ c = '\n') ∨ c = '\r' := by
    simpa [isDropped] using dropped
  all_goals rfl

theorem head?_dropWhile_isOuterBlank (text : List Char) :
    ∀ c, (text.dropWhile isOuterBlank).head? = some c → isOuterBlank c = false := by
  intro c starts
  have stops := List.head?_dropWhile_not isOuterBlank text
  rwa [starts] at stops

/-- A first character that is no blank stays the first when characters are dropped. -/
theorem head?_filter_isDropped
    {text : List Char}
    (visible : ∀ c, text.head? = some c → isOuterBlank c = false) :
    ∀ c, (text.filter fun c => !isDropped c).head? = some c → isOuterBlank c = false := by
  cases text with
  | nil => nofun
  | cons d text =>
      have stays : isDropped d = false := by
        refine Bool.eq_false_iff.mpr fun dropped => ?_
        have blank := isOuterBlank_of_isDropped dropped
        rw [visible d rfl] at blank
        nomatch blank
      intro c starts
      rw [List.filter_cons_of_pos (by simp [stays])] at starts
      exact visible c starts

theorem isClean_clean (text : List Char) : IsClean (clean text) := by
  have visible := head?_dropWhile_isOuterBlank text
  have visibleBack := head?_dropWhile_isOuterBlank (text.dropWhile isOuterBlank).reverse
  have part := List.dropWhile_suffix isOuterBlank (l := (text.dropWhile isOuterBlank).reverse)
  rw [clean]
  generalize text.dropWhile isOuterBlank = front at visible visibleBack part
  generalize front.reverse.dropWhile isOuterBlank = back at visibleBack part
  constructor
  · simp
  · refine head?_filter_isDropped fun c starts => visible c ?_
    obtain ⟨rest, whole⟩ := part
    have parts : front = back.reverse ++ rest.reverse := by
      rw [← List.reverse_append, whole, List.reverse_reverse]
    rw [parts, List.head?_append, starts]
    rfl
  · intro c ends
    rw [← List.head?_reverse, ← List.filter_reverse, List.reverse_reverse] at ends
    exact head?_filter_isDropped visibleBack c ends

/-- Cleaning leaves a clean text as it is. -/
theorem clean_of_isClean
    {text : List Char}
    (isClean : IsClean text) :
    clean text = text := by
  have front : text.dropWhile isOuterBlank = text :=
    Text.dropWhile_append_of_stop (List.forall_mem_nil _) isClean.head
  have back : text.reverse.dropWhile isOuterBlank = text.reverse := by
    refine Text.dropWhile_append_of_stop (List.forall_mem_nil _) fun c starts => isClean.last c ?_
    rwa [← List.head?_reverse]
  rw [clean, front, back, List.reverse_reverse, List.filter_eq_self]
  exact fun c inside => by rw [isClean.kept c inside]; rfl

/-- A clean text stays clean with a slash added to its path. -/
theorem isClean_addsSlash
    {text : List Char}
    (isClean : IsClean text) :
    IsClean (frontOf text ++ '/' :: tailOf text) := by
  have whole := frontOf_append_tailOf text
  constructor
  · intro c inside
    have sorted : c ∈ frontOf text ∨ c = '/' ∨ c ∈ tailOf text := by simpa using inside
    rcases sorted with member | rfl | member
    · exact isClean.kept c (whole ▸ List.mem_append_left _ member)
    · rfl
    · exact isClean.kept c (whole ▸ List.mem_append_right _ member)
  · intro c starts
    rcases head?_addsSlash starts with rfl | same
    · rfl
    · exact isClean.head c same
  · intro c ends
    rw [List.getLast?_append_of_ne_nil _ (List.cons_ne_nil _ _)] at ends
    cases tail : tailOf text with
    | nil =>
        rw [tail] at ends
        obtain rfl := Option.some.inj ends
        rfl
    | cons d rest =>
        rw [tail] at ends whole
        rw [List.getLast?_cons_cons] at ends
        refine isClean.last c ?_
        rwa [← whole, List.getLast?_append_of_ne_nil _ (List.cons_ne_nil _ _)]

/-- To each text a slash can be added. -/
theorem exists_addsSlash (text : String) : ∃ other, AddsSlash text other := by
  refine ⟨String.ofList (frontOf (clean text.toList) ++ '/' :: tailOf (clean text.toList)), ?_⟩
  rw [AddsSlash, String.toList_ofList]
  exact clean_of_isClean (isClean_addsSlash (isClean_clean text.toList))

/-! ## Closed addresses -/

/-- The path of a web address consists of segments that stay as they are. -/
theorem arePath_of_parse?
    (read : parse? text = some url)
    (web : url.scheme ∈ ["http", "https"]) :
    ∃ list, url.path = .segments list ∧ ArePath list := by
  obtain ⟨-, bare, tail, -, -, -, rfl⟩ := exists_leads read web
  exact ⟨_, rfl, arePath_pathAfterAuthority _⟩

/-- The path of a text ends with a slash only if there is an empty segment at its end. -/
theorem endsOpen_of_getLast?
    {list : List String}
    (read : parse? text = some url)
    (web : url.scheme ∈ ["http", "https"])
    (path : url.path = .segments list)
    (filled : list.getLast? ≠ some "") :
    EndsOpen text := by
  obtain ⟨lead, bare, tail, text_eq, -, leads, rfl⟩ := exists_leads read web
  rw [withRest_eq] at path
  obtain rfl := Path.segments.inj path
  rw [EndsOpen, text_eq, frontOf_append leads.whole]
  have isOpen := isOpen_of_getLast? filled
  have front : frontOf tail ≠ [] := by
    intro empty
    rw [empty] at filled
    exact filled rfl
  intro c ends
  refine isOpen c ?_
  rwa [List.getLast?_append_of_ne_nil lead front] at ends

/-! ## Writing the slash -/

/-- The address with another path, read from a text. -/
def withPath (text : String) (url : Url) : Url :=
  { url with path := .segments (pathAfterAuthority (isSpecial url.scheme) false text.toList) }

/-- A written path ends with a slash exactly if its last segment is empty. -/
theorem getLast?_render
    {list : List String}
    (path : ArePath list) :
    (Path.segments list).render.toList.getLast? = some '/' ↔ list.getLast? = some "" := by
  obtain ⟨nonempty, settled⟩ := path
  obtain ⟨inner, last, rfl⟩ := (List.eq_nil_or_concat' list).resolve_left nonempty
  have whole := (settled last (List.mem_append_right _ List.mem_cons_self)).whole
  rw [toList_render_segments, List.flatMap_append, List.flatMap_singleton, List.getLast?_concat,
    List.getLast?_append_of_ne_nil _ (List.cons_ne_nil _ _), List.getLast?_cons,
    Option.some_inj, Option.some_inj]
  cases ends : last.toList.getLast? with
  | none =>
      have empty : last = "" := String.toList_eq_nil_iff.mp (List.getLast?_eq_none_iff.mp ends)
      simp [empty]
  | some c =>
      have inside : c ∈ last.toList := List.mem_of_getLast? ends
      refine iff_of_false ?_ ?_
      · rintro rfl
        have slash := whole '/' inside
        rw [isSlash_slash] at slash
        nomatch slash
      · rintro rfl
        nomatch inside

theorem render_concat_empty (list : List String) :
    (Path.segments (list ++ [""])).render = (Path.segments list).render ++ "/" := by
  rw [← String.toList_inj, String.toList_append]
  simp [toList_render_segments]

/-- To close a web address is to read its path with a slash behind it, unless it ends with one. -/
theorem closed_eq_withPath
    {list : List String}
    (web : url.scheme ∈ ["http", "https"])
    (segments : url.path = .segments list)
    (path : ArePath list) :
    url.closed =
      if url.path.render.toList.getLast? = some '/' then url
      else url.withPath (url.path.render ++ "/") := by
  rw [closed, withPath, isSpecial_of_web web, segments]
  simp only [getLast?_render path, Path.closed]
  split
  · rw [← segments]
  · have extended := arePath_concat path.settled isSettled_empty
    rw [← render_concat_empty, pathAfterAuthority_render extended]

/-! ## What a request names -/

theorem endsPath_of_mem_render
    {list : List String}
    {c : Char}
    (path : ArePath list)
    (inside : c ∈ (Path.segments list).render.toList) :
    endsPath c = false := by
  rw [toList_render_segments] at inside
  obtain ⟨segment, member, found⟩ := List.mem_flatMap.mp inside
  rcases List.mem_cons.mp found with rfl | held
  · rfl
  · have plain := (path.settled segment member).plain c held
    refine Bool.eq_false_iff.mpr fun ends => ?_
    obtain rfl | rfl : c = '?' ∨ c = '#' := by simpa [endsPath] using ends
    all_goals exact absurd plain (by decide)

/-- Path and query are told apart in what a request names. -/
theorem splitTail_target
    {list : List String}
    {query : String}
    (segments : url.path = .segments list)
    (path : ArePath list)
    (asked : url.query = some query)
    (noFragment : '#' ∉ query.toList) :
    splitTail url.target.toList = (url.path.render.toList, some query.toList, none) := by
  have written : url.target.toList = url.path.render.toList ++ '?' :: query.toList := by
    rw [target, asked, renderAfter, String.toList_append, String.toList_append]
    rfl
  have whole : ∀ c ∈ url.path.render.toList, endsPath c = false := by
    rw [segments]
    exact fun c inside => endsPath_of_mem_render path inside
  have rest : splitTail ('?' :: query.toList) = ([], some query.toList, none) := by
    simp [splitTail, Text.cutFirst, Text.cutFirst_eq_none.mpr noFragment]
  rw [written, splitTail_append whole, rest, List.append_nil]

end Url
end Delegation
