import Mathlib.Data.String.Basic
import Delegation.Proofs.Text.Cutting
import Delegation.Proofs.Url.Percent
import Delegation.Url.Reader

/-!
# Segments of a path

The path of an address with an authority is read as segments that stay as they are: nothing in them
has to be encoded, they hold no slash, and none of them is a dot. Such segments are read back from
the written path. A slash at the end of a path adds an empty segment, unless there is one already.
-/

namespace Delegation
namespace Url

/-- A segment that stays as it is when a path is read. -/
structure IsSettled (segment : String) : Prop where
  /-- Nothing is to be encoded. -/
  plain : ∀ c ∈ segment.toList, pathSet c = false
  /-- It is one segment. -/
  whole : ∀ c ∈ segment.toList, Reader.isSlash true c = false
  /-- It does not stand for its own place. -/
  notSingleDot : Reader.isSingleDot segment.toList = false
  /-- It does not stand for the place above. -/
  notDoubleDot : Reader.isDoubleDot segment.toList = false

theorem isSettled_empty : IsSettled "" := by
  constructor <;> simp [Reader.isSingleDot, Reader.isDoubleDot, Text.asciiLower]

/-- Segments of which a path can consist. -/
structure ArePath (list : List String) : Prop where
  nonempty : list ≠ []
  settled : ∀ segment ∈ list, IsSettled segment

variable {list above : List String}

theorem settled_concat
    {last : String}
    (settled : ∀ segment ∈ above, IsSettled segment)
    (itself : IsSettled last) :
    ∀ segment ∈ above ++ [last], IsSettled segment := by
  intro segment inside
  rcases List.mem_append.mp inside with earlier | final
  · exact settled segment earlier
  · rwa [List.mem_singleton.mp final]

/-- Settled segments with a settled one at the end are the segments of a path. -/
theorem arePath_concat
    {last : String}
    (settled : ∀ segment ∈ above, IsSettled segment)
    (itself : IsSettled last) :
    ArePath (above ++ [last]) :=
  ⟨List.concat_ne_nil _ _, settled_concat settled itself⟩

namespace Reader

variable {piece text : List Char} {isLast : Bool}

/-! ## Adding a segment -/

/-- A piece of a path in which nothing is to be encoded and no slash is left. -/
def IsPiece (piece : List Char) : Prop :=
  ∀ c ∈ piece, pathSet c = false ∧ isSlash true c = false

theorem addSegment_of_doubleDot (dots : isDoubleDot piece = true) :
    addSegment false isLast above piece =
      shorten false above ++ if isLast then [""] else [] := by
  cases isLast <;> simp [addSegment, dots]

theorem addSegment_of_singleDot
    (notDots : isDoubleDot piece = false)
    (dot : isSingleDot piece = true) :
    addSegment false isLast above piece = above ++ if isLast then [""] else [] := by
  cases isLast <;> simp [addSegment, notDots, dot]

/-- A segment that is no dot is put at the end as it is. -/
theorem addSegment_of_noDot
    (notDots : isDoubleDot piece = false)
    (notDot : isSingleDot piece = false) :
    addSegment false isLast above piece = above ++ [String.ofList piece] := by
  simp [addSegment, notDots, notDot]

theorem addSegment_nil : addSegment false isLast above [] = above ++ [""] :=
  addSegment_of_noDot isSettled_empty.notDoubleDot isSettled_empty.notSingleDot

theorem addSegment_last_ne_nil : addSegment false true above piece ≠ [] := by
  cases dots : isDoubleDot piece with
  | true => simp [addSegment_of_doubleDot dots]
  | false =>
      cases dot : isSingleDot piece with
      | true => simp [addSegment_of_singleDot dots dot]
      | false => simp [addSegment_of_noDot dots dot]

theorem mem_of_mem_shorten
    {segment : String}
    (inside : segment ∈ shorten false list) :
    segment ∈ list := by
  unfold shorten at inside
  split at inside
  · simp at inside
  · exact List.dropLast_subset _ inside

theorem settled_append_empty (settled : ∀ segment ∈ above, IsSettled segment) :
    ∀ segment ∈ above ++ if isLast then [""] else [], IsSettled segment := by
  cases isLast with
  | false => simpa using settled
  | true => exact settled_concat settled isSettled_empty

/-- Adding an encoded piece to settled segments leaves them settled. -/
theorem settled_addSegment
    (settled : ∀ segment ∈ above, IsSettled segment)
    (clean : IsPiece piece) :
    ∀ segment ∈ addSegment false isLast above piece, IsSettled segment := by
  cases dots : isDoubleDot piece with
  | true =>
      rw [addSegment_of_doubleDot dots]
      exact settled_append_empty fun segment kept => settled segment (mem_of_mem_shorten kept)
  | false =>
      cases dot : isSingleDot piece with
      | true =>
          rw [addSegment_of_singleDot dots dot]
          exact settled_append_empty settled
      | false =>
          rw [addSegment_of_noDot dots dot]
          refine settled_concat settled ?_
          constructor <;> rw [String.toList_ofList]
          · exact fun c inside => (clean c inside).1
          · exact fun c inside => (clean c inside).2
          · exact dot
          · exact dots

/-- Adding any number of encoded pieces to settled segments leaves them settled. -/
theorem settled_foldl_addSegment
    {pieces : List (List Char)}
    (settled : ∀ segment ∈ above, IsSettled segment)
    (clean : ∀ piece ∈ pieces, IsPiece piece) :
    ∀ segment ∈ pieces.foldl (addSegment false false) above, IsSettled segment := by
  induction pieces generalizing above with
  | nil => exact settled
  | cons piece pieces inductionHypothesis =>
      exact inductionHypothesis (settled_addSegment settled (clean piece List.mem_cons_self))
        fun other later => clean other (List.mem_cons_of_mem piece later)

/-! ## Reading a path -/

/-- The pieces between slashes, once encoded, hold no slash and nothing that a path encodes. -/
theorem isPiece_of_mem_pathPieces
    (member : piece ∈ (pathPieces true text).map (encode pathSet)) :
    IsPiece piece := by
  obtain ⟨original, found, rfl⟩ := List.mem_map.mp member
  intro c inside
  refine ⟨pathSet_of_mem_encode inside, ?_⟩
  rcases mem_encode inside with ⟨held, -⟩ | coded
  · -- A backslash has become a slash, and at slashes the text is cut.
    obtain ⟨notSlash, mapped⟩ := Text.mem_of_mem_piecesAt found held
    obtain ⟨d, -, rfl⟩ := List.mem_map.mp mapped
    cases slash : isSlash true d with
    | true => simp [slash] at notSlash
    | false => simp [slash]
  · obtain ⟨-, notSlash, notBackslash⟩ := codeChars_stay c coded
    simp [isSlash, notSlash, notBackslash]

theorem isSlash_slash (special : Bool) : isSlash special '/' = true := rfl

/-- A slash parts the pieces of what stands before it from those of what follows. -/
theorem pathPieces_append_cons
    {special : Bool}
    {c : Char}
    (slash : isSlash special c = true)
    (head tail : List Char) :
    pathPieces special (head ++ c :: tail) =
      pathPieces special head ++ pathPieces special tail := by
  simp only [pathPieces, List.map_append, List.map_cons, slash, if_true]
  exact Text.piecesAt_append_cons '/' _ _

/-- A text without a slash is a piece of its own. -/
theorem pathPieces_of_no_slash
    {special : Bool}
    (whole : ∀ c ∈ text, isSlash special c = false) :
    pathPieces special text = [text] := by
  have same : (text.map fun c => if isSlash special c then '/' else c) = text := by
    refine (List.map_congr_left fun c inside => ?_).trans (List.map_id text)
    rw [whole c inside]
    rfl
  rw [pathPieces, same, Text.piecesAt_of_not_mem]
  intro inside
  simpa [isSlash] using whole '/' inside

theorem exists_pathPieces (special : Bool) (text : List Char) :
    ∃ pieces last, pathPieces special text = pieces ++ [last] :=
  (List.eq_nil_or_concat' _).resolve_left (Text.piecesAt_ne_nil _ _)

/-- The segments of a path are made by adding its pieces one after the other. -/
theorem segments_eq
    {pieces : List (List Char)}
    (cut : pathPieces true text = pieces ++ [piece]) :
    segments true false text =
      addSegment false true ((pieces.map (encode pathSet)).foldl (addSegment false false) [])
        (encode pathSet piece) := by
  simp [segments, cut]

/-- Whatever text a path is read from, its segments are settled. -/
theorem arePath_segments (text : List Char) : ArePath (segments true false text) := by
  obtain ⟨pieces, last, cut⟩ := exists_pathPieces true text
  have clean : ∀ piece ∈ pieces.map (encode pathSet) ++ [encode pathSet last], IsPiece piece := by
    intro piece member
    have original : piece ∈ (pathPieces true text).map (encode pathSet) := by
      rwa [cut, List.map_append]
    exact isPiece_of_mem_pathPieces original
  rw [segments_eq cut]
  refine ⟨addSegment_last_ne_nil, settled_addSegment (settled_foldl_addSegment nofun ?_) ?_⟩
  · exact fun piece member => clean piece (List.mem_append_left _ member)
  · exact clean _ (List.mem_append_right _ List.mem_cons_self)

/-- The path after the authority of a web address consists of segments that stay as they are. -/
theorem arePath_pathAfterAuthority (text : List Char) :
    ArePath (pathAfterAuthority true false text) := by
  cases text with
  | nil => exact ⟨List.cons_ne_nil _ _, by simp [pathAfterAuthority, isSettled_empty]⟩
  | cons c text =>
      rw [pathAfterAuthority]
      split <;> exact arePath_segments _

/-! ## Reading a path back -/

theorem toList_render_segments (list : List String) :
    (Path.segments list).render.toList = list.flatMap fun segment => '/' :: segment.toList := by
  simp [Path.render, String.join_eq, List.flatMap_def, Function.comp_def]

/-- The pieces of a written path are its segments. -/
theorem pathPieces_render
    {first : String}
    (settled : ∀ segment ∈ first :: list, IsSettled segment) :
    pathPieces true (first.toList ++ list.flatMap fun segment => '/' :: segment.toList) =
      (first :: list).map String.toList := by
  have whole := (settled first List.mem_cons_self).whole
  induction list generalizing first with
  | nil => simpa using pathPieces_of_no_slash whole
  | cons second list inductionHypothesis =>
      have later : ∀ segment ∈ second :: list, IsSettled segment :=
        fun segment inside => settled segment (List.mem_cons_of_mem first inside)
      rw [List.flatMap_cons, List.cons_append, pathPieces_append_cons (isSlash_slash true),
        pathPieces_of_no_slash whole,
        inductionHypothesis later (later second List.mem_cons_self).whole]
      rfl

theorem addSegment_of_isSettled
    {segment : String}
    (settled : IsSettled segment) :
    addSegment false isLast above (encode pathSet segment.toList) = above ++ [segment] := by
  rw [encode_eq_self settled.plain, addSegment_of_noDot settled.notDoubleDot settled.notSingleDot,
    String.ofList_toList]

/-- Settled segments that are encoded and read again stay as they are. -/
theorem foldl_addSegment_of_isSettled
    (settled : ∀ segment ∈ list, IsSettled segment) :
    (list.map fun segment => encode pathSet segment.toList).foldl (addSegment false false) above =
      above ++ list := by
  induction list generalizing above with
  | nil => simp
  | cons segment list inductionHypothesis =>
      rw [List.map_cons, List.foldl_cons,
        addSegment_of_isSettled (settled segment List.mem_cons_self),
        inductionHypothesis fun other later => settled other (List.mem_cons_of_mem segment later)]
      simp

/-- Segments that stay as they are are read back from the written path. -/
theorem pathAfterAuthority_render (path : ArePath list) :
    pathAfterAuthority true false (Path.segments list).render.toList = list := by
  obtain ⟨nonempty, settled⟩ := path
  obtain ⟨first, rest, rfl⟩ := List.exists_cons_of_ne_nil nonempty
  have pieces := pathPieces_render settled
  obtain ⟨inner, last, split⟩ := (List.eq_nil_or_concat' (first :: rest)).resolve_left nonempty
  rw [split, List.map_append, List.map_singleton] at pieces
  rw [toList_render_segments, List.flatMap_cons, List.cons_append, pathAfterAuthority,
    if_pos (isSlash_slash true), segments_eq pieces, split]
  rw [split] at settled
  rw [List.map_map, Function.comp_def, foldl_addSegment_of_isSettled fun segment inside =>
      settled segment (List.mem_append_left _ inside),
    addSegment_of_isSettled (settled last (List.mem_append_right _ List.mem_cons_self))]
  rfl

/-! ## A slash at the end -/

variable {c : Char}

/-- A piece before the last slash is added as one that is not the last. -/
theorem segments_append_slash
    {pieces : List (List Char)}
    (slash : isSlash true c = true)
    (cut : pathPieces true text = pieces ++ [piece]) :
    segments true false (text ++ [c]) =
      addSegment false false ((pieces.map (encode pathSet)).foldl (addSegment false false) [])
        (encode pathSet piece) ++ [""] := by
  have longer : pathPieces true (text ++ [c]) = (pieces ++ [piece]) ++ [[]] := by
    rw [pathPieces_append_cons slash, cut]
    rfl
  rw [segments_eq longer, List.map_append, List.foldl_append]
  exact addSegment_nil

/-- Closing a path after a last piece adds the empty segment that a slash would have added. -/
theorem closed_addSegment (filled : piece ≠ []) :
    (Path.segments (addSegment false true above piece)).closed =
      .segments (addSegment false false above piece ++ [""]) := by
  cases dots : isDoubleDot piece with
  | true => simp [addSegment_of_doubleDot dots, Path.closed]
  | false =>
      cases dot : isSingleDot piece with
      | true => simp [addSegment_of_singleDot dots dot, Path.closed]
      | false => simp [addSegment_of_noDot dots dot, Path.closed, filled]

theorem closed_concat_empty (list : List String) :
    (Path.segments (list ++ [""])).closed = .segments (list ++ [""]) := by
  simp [Path.closed]

/-- A text that ends in no slash has a last piece with something in it. -/
theorem exists_last_pathPiece
    (ends : text.getLast? = some c)
    (noSlash : isSlash true c = false) :
    ∃ pieces last, pathPieces true text = pieces ++ [last] ∧ last ≠ [] := by
  refine Text.exists_last_piece (c := c) ?_ ?_
  · simp [List.getLast?_map, ends, noSlash]
  · rintro rfl
    rw [isSlash_slash] at noSlash
    nomatch noSlash

/-- A slash that is added at the end makes no difference to a path that is closed anyway. -/
theorem closed_segments_append_slash
    (ends : text.getLast? = some c)
    (noSlash : isSlash true c = false) :
    (Path.segments (segments true false (text ++ ['/']))).closed =
      (Path.segments (segments true false text)).closed := by
  obtain ⟨pieces, last, cut, filled⟩ := exists_last_pathPiece ends noSlash
  rw [segments_append_slash (isSlash_slash true) cut, segments_eq cut, closed_concat_empty,
    closed_addSegment (encode_ne_nil filled)]

/-- A path does not end with a slash. -/
def IsOpen (text : List Char) : Prop :=
  ∀ c, text.getLast? = some c → isSlash true c = false

/-- A slash at the end of an open path makes no difference to the path once closed. -/
theorem closed_pathAfterAuthority_append_slash (isOpen : IsOpen text) :
    (Path.segments (pathAfterAuthority true false (text ++ ['/']))).closed =
      (Path.segments (pathAfterAuthority true false text)).closed := by
  cases text with
  | nil => rfl
  | cons c text =>
      obtain ⟨last, ends⟩ : ∃ last, (c :: text).getLast? = some last :=
        ⟨_, List.getLast?_eq_some_getLast (List.cons_ne_nil c text)⟩
      have noSlash := isOpen last ends
      rw [List.cons_append, pathAfterAuthority, pathAfterAuthority]
      cases slash : isSlash true c with
      | true =>
          refine @closed_segments_append_slash text last ?_ noSlash
          -- The first slash is not the last character.
          cases text with
          | nil =>
              have same : c = last := Option.some.inj ends
              rw [← same, slash] at noSlash
              cases noSlash
          | cons d text => simpa using ends
      | false => exact @closed_segments_append_slash (c :: text) last ends noSlash

theorem getLast?_segments_append_slash
    (slash : isSlash true c = true)
    (text : List Char) :
    (segments true false (text ++ [c])).getLast? = some "" := by
  obtain ⟨pieces, last, cut⟩ := exists_pathPieces true text
  rw [segments_append_slash slash cut, List.getLast?_concat]

/-- A path that ends with a slash has an empty segment at its end. -/
theorem isOpen_of_getLast?
    (filled : (pathAfterAuthority true false text).getLast? ≠ some "") :
    IsOpen text := by
  intro c ends
  by_contra notOpen
  have slash : isSlash true c = true := Bool.not_eq_false _ ▸ notOpen
  obtain ⟨front, rfl⟩ := List.getLast?_eq_some_iff.mp ends
  refine filled ?_
  cases front with
  | nil =>
      rw [List.nil_append, pathAfterAuthority, if_pos slash]
      rfl
  | cons d front =>
      rw [List.cons_append, pathAfterAuthority]
      split
      · exact getLast?_segments_append_slash slash front
      · exact getLast?_segments_append_slash slash (d :: front)

end Reader
end Url
end Delegation
