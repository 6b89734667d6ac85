import Delegation.Json.Reader
import Delegation.Proofs.Json.Tokens
import Delegation.Proofs.Text.Utf8

/-!
# Values are read as they were written

A value whose strings have texts and whose numbers are whole is told in full by its text: the
text is read as the value again, from characters and from bytes. The tokens of the text are read
one after the other, and a value begins and ends at the same depth of open arrays and objects.
-/

namespace Delegation
namespace Json

/-- A value that its text tells in full: its strings have texts, and its numbers are whole. -/
inductive IsExact : Json → Prop
  | null : IsExact .null
  | bool (value : Bool) : IsExact (.bool value)
  | integer (value : Int) : IsExact (.integer value)
  | string (text : String) : IsExact (.ofString text)
  | array (items : List Json) :
      (∀ item ∈ items, IsExact item) → IsExact (.array items)
  | object (members : List (String × Json)) :
      (∀ member ∈ members, IsExact member.2) → IsExact (.ofMembers members)

namespace Reader

/-- A value may begin. -/
def Expecting.Opens : Expecting → Prop
  | value => True
  | firstItem => True
  | _ => False

/-- Tokens are those of a value: where a value may begin, they lead behind it. -/
def Reads
    (tokens : List Token)
    (value : Json) : Prop :=
  ∀ frames expecting more, Expecting.Opens expecting →
    (tokens ++ more).foldlM step ⟨frames, expecting⟩ =
      more.foldlM step ⟨frames, .afterValue value⟩

theorem reads_atom (value : Json) : Reads [.atom value] value := by
  intro frames expecting more opens
  cases expecting with
  | value | firstItem => rfl
  | _ => nomatch opens

/-- Tokens inside an open array add some items and lead behind its end. -/
def ReadsItems
    (tokens : List Token)
    (items : List Json) : Prop :=
  ∀ frames done expecting more, Expecting.Opens expecting →
    (tokens ++ Token.closeArray :: more).foldlM step ⟨.array done :: frames, expecting⟩ =
      more.foldlM step ⟨frames, .afterValue (.array (done.reverse ++ items))⟩

theorem readsItems_singleton
    {tokens : List Token}
    {item : Json}
    (reads : Reads tokens item) :
    ReadsItems tokens [item] := by
  intro frames done expecting more opens
  rw [reads _ _ _ opens]
  simp [step, afterValue]

/-- An item, a comma and further items read as the items with that one in front. -/
theorem ReadsItems.cons
    {tokens others : List Token}
    {item : Json}
    {items : List Json}
    (reads : Reads tokens item)
    (further : ReadsItems others items) :
    ReadsItems (tokens ++ Token.comma :: others) (item :: items) := by
  intro frames done expecting more opens
  rw [List.append_assoc, reads _ _ _ opens, List.cons_append, List.foldlM_cons]
  simp only [step, afterValue, Option.bind_eq_bind, Option.bind_some]
  rw [further frames (item :: done) .value more trivial]
  simp

/-- Items between brackets read as an array. -/
theorem ReadsItems.array
    {tokens : List Token}
    {items : List Json}
    (reads : ReadsItems tokens items) :
    Reads (Token.openArray :: (tokens ++ [Token.closeArray])) (.array items) := by
  intro frames expecting more opens
  have inside := reads frames [] .firstItem more trivial
  cases expecting with
  | value | firstItem => simpa [step, beginValue] using inside
  | _ => nomatch opens

theorem reads_array_nil :
    Reads [Token.openArray, Token.closeArray] (.array []) := by
  intro frames expecting more opens
  cases expecting with
  | value | firstItem => rfl
  | _ => nomatch opens

/-- A key may come, after some members. -/
def Expecting.OpensMember (done : List (Option String × Json)) : Expecting → Prop
  | firstKey members => members = done
  | key members => members = done
  | _ => False

/-- Tokens inside an open object add some members and lead behind its end. -/
def ReadsMembers
    (tokens : List Token)
    (members : List (Option String × Json)) : Prop :=
  ∀ frames done expecting more, Expecting.OpensMember done expecting →
    (tokens ++ Token.closeObject :: more).foldlM step ⟨frames, expecting⟩ =
      more.foldlM step ⟨frames, .afterValue (.object (done.reverse ++ members))⟩

/-- A key and a colon lead to the value of a member. -/
theorem foldlM_key
    {done : List (Option String × Json)}
    {expecting : Expecting}
    (opens : expecting.OpensMember done)
    (frames : List Frame)
    (key : Option String)
    (more : List Token) :
    (Token.atom (.string key) :: Token.colon :: more).foldlM step ⟨frames, expecting⟩ =
      more.foldlM step ⟨.object done key :: frames, .value⟩ := by
  cases expecting with
  | firstKey members | key members =>
      obtain rfl : members = done := opens
      rfl
  | _ => nomatch opens

theorem readsMembers_singleton
    {tokens : List Token}
    {key : Option String}
    {value : Json}
    (reads : Reads tokens value) :
    ReadsMembers (Token.atom (.string key) :: Token.colon :: tokens) [(key, value)] := by
  intro frames done expecting more opens
  rw [List.cons_append, List.cons_append, foldlM_key opens, reads _ .value _ trivial]
  simp [step, afterValue]

/-- A member, a comma and further members read as the members with that one in front. -/
theorem ReadsMembers.cons
    {tokens others : List Token}
    {key : Option String}
    {value : Json}
    {members : List (Option String × Json)}
    (reads : Reads tokens value)
    (further : ReadsMembers others members) :
    ReadsMembers (Token.atom (.string key) :: Token.colon :: (tokens ++ Token.comma :: others))
      ((key, value) :: members) := by
  intro frames done expecting more opens
  rw [List.cons_append, List.cons_append, foldlM_key opens, List.append_assoc,
    reads _ .value _ trivial, List.cons_append, List.foldlM_cons]
  simp only [step, afterValue, Option.bind_eq_bind, Option.bind_some]
  rw [further frames ((key, value) :: done) (.key ((key, value) :: done)) more rfl]
  simp

/-- Members between braces read as an object. -/
theorem ReadsMembers.object
    {tokens : List Token}
    {members : List (Option String × Json)}
    (reads : ReadsMembers tokens members) :
    Reads (Token.openObject :: (tokens ++ [Token.closeObject])) (.object members) := by
  intro frames expecting more opens
  have inside := reads frames [] (.firstKey []) more rfl
  cases expecting with
  | value | firstItem => simpa [step, beginValue] using inside
  | _ => nomatch opens

theorem reads_object_nil :
    Reads [Token.openObject, Token.closeObject] (.object []) := by
  intro frames expecting more opens
  cases expecting with
  | value | firstItem => rfl
  | _ => nomatch opens

end Reader

open Token Reader

/-- A text has the tokens of a value. -/
def Tells
    (text : List Char)
    (value : Json) : Prop :=
  ∃ tokens, Scans text tokens ∧ Reads tokens value

theorem tells_of_next?
    {text : List Char}
    {value : Json}
    (found : ∀ rest, EndsNumber rest → next? (text ++ rest) = some (.atom value, rest)) :
    Tells text value :=
  ⟨_, scans_of_next? found, reads_atom value⟩

theorem exists_tokens_of_items
    {item : Json}
    {items : List Json}
    (tells : ∀ other ∈ item :: items, Tells other.render.toList other) :
    ∃ tokens, Scans (renderItems (item :: items)).toList tokens ∧
      ReadsItems tokens (item :: items) := by
  obtain ⟨tokens, scans, reads⟩ := tells item List.mem_cons_self
  induction items generalizing item tokens with
  | nil => exact ⟨tokens, scans, readsItems_singleton reads⟩
  | cons next items inductionHypothesis =>
      have rest : ∀ other ∈ next :: items, Tells other.render.toList other :=
        fun other inside => tells other (List.mem_cons_of_mem _ inside)
      obtain ⟨nextTokens, nextScans, nextReads⟩ := rest next List.mem_cons_self
      obtain ⟨others, further, readFurther⟩ :=
        inductionHypothesis rest nextTokens nextScans nextReads
      refine ⟨tokens ++ Token.comma :: others, ?_, .cons reads readFurther⟩
      have text : (renderItems (item :: next :: items)).toList =
          item.render.toList ++ ',' :: (renderItems (next :: items)).toList := by
        simp [renderItems]
      rw [text]
      exact scans.append_mark .comma further

/-- The text of an array tells the array if the texts of its items tell them. -/
theorem tells_array
    {items : List Json}
    (tells : ∀ item ∈ items, Tells item.render.toList item) :
    Tells (render (.array items)).toList (.array items) := by
  cases items with
  | nil => exact ⟨_, IsMark.openArray.scans_cons IsMark.closeArray.scans, reads_array_nil⟩
  | cons item items =>
      obtain ⟨tokens, scans, reads⟩ := exists_tokens_of_items tells
      have text : (render (.array (item :: items))).toList =
          '[' :: ((renderItems (item :: items)).toList ++ [']']) := by
        simp [render]
      refine ⟨_, ?_, reads.array⟩
      rw [text]
      exact IsMark.openArray.scans_cons
        (scans.append IsMark.closeArray.scans fun _ _ => IsMark.closeArray.endsNumber _)

/-- The text of a member, with the key that it starts with. -/
theorem scans_member
    {value : Json}
    {tokens : List Token}
    (key : String)
    (scans : Scans value.render.toList tokens) :
    Scans ((quote key).toList ++ ':' :: value.render.toList)
      (Token.atom (.string (some key)) :: Token.colon :: tokens) :=
  Scans.append_mark (scans_of_next? fun rest _ => next?_quote key rest) .colon scans

theorem exists_tokens_of_members
    {member : String × Json}
    {members : List (String × Json)}
    (tells : ∀ other ∈ member :: members, Tells other.2.render.toList other.2) :
    ∃ tokens,
      Scans (renderMembers ((member :: members).map fun other => (some other.1, other.2))).toList
        tokens ∧
      ReadsMembers tokens ((member :: members).map fun other => (some other.1, other.2)) := by
  induction members generalizing member with
  | nil =>
      obtain ⟨tokens, scans, reads⟩ := tells member List.mem_cons_self
      refine ⟨_, ?_, readsMembers_singleton reads⟩
      have text : (renderMembers [(some member.1, member.2)]).toList =
          (quote member.1).toList ++ ':' :: member.2.render.toList := by
        simp [renderMembers]
      rw [List.map_singleton, text]
      exact scans_member member.1 scans
  | cons next members inductionHypothesis =>
      obtain ⟨tokens, scans, reads⟩ := tells member List.mem_cons_self
      obtain ⟨others, further, readFurther⟩ :=
        inductionHypothesis fun other inside => tells other (List.mem_cons_of_mem _ inside)
      refine ⟨_, ?_, .cons reads readFurther⟩
      have text :
          (renderMembers ((member :: next :: members).map fun other =>
            (some other.1, other.2))).toList =
          ((quote member.1).toList ++ ':' :: member.2.render.toList) ++ ',' ::
            (renderMembers
              ((next :: members).map fun other => (some other.1, other.2))).toList := by
        simp [renderMembers]
      rw [text]
      exact (scans_member member.1 scans).append_mark .comma further

/-- The text of an object tells the object if the texts of its members tell them. -/
theorem tells_ofMembers
    {members : List (String × Json)}
    (tells : ∀ member ∈ members, Tells member.2.render.toList member.2) :
    Tells (render (.ofMembers members)).toList (.ofMembers members) := by
  cases members with
  | nil => exact ⟨_, IsMark.openObject.scans_cons IsMark.closeObject.scans, reads_object_nil⟩
  | cons member members =>
      obtain ⟨tokens, scans, reads⟩ := exists_tokens_of_members tells
      have text : (render (.ofMembers (member :: members))).toList =
          '\x7b' :: ((renderMembers ((member :: members).map fun other =>
            (some other.1, other.2))).toList ++ ['\x7d']) := by
        simp [ofMembers, render]
      refine ⟨_, ?_, reads.object⟩
      rw [text]
      exact IsMark.openObject.scans_cons
        (scans.append IsMark.closeObject.scans fun _ _ => IsMark.closeObject.endsNumber _)

/-- The text of a value has the tokens of the value. -/
theorem IsExact.tells
    {json : Json}
    (exact : json.IsExact) :
    Tells json.render.toList json := by
  induction exact with
  | null => exact tells_of_next? fun rest _ => rfl
  | bool value => cases value <;> exact tells_of_next? fun rest _ => rfl
  | integer value => exact tells_of_next? fun rest ends => next?_integer ends value
  | string text => exact tells_of_next? fun rest _ => next?_quote text rest
  | array items _ inductionHypothesis => exact tells_array inductionHypothesis
  | object members _ inductionHypothesis => exact tells_ofMembers inductionHypothesis

/-- A text that tells a value is read as it. -/
theorem Tells.read?
    {text : String}
    {value : Json}
    (tells : Tells text.toList value) :
    read? text = some value := by
  obtain ⟨tokens, scans, reads⟩ := tells
  have whole := reads [] .value [] trivial
  rw [List.append_nil] at whole
  simp only [Json.read?, scans.scan, Option.bind_eq_bind, Option.bind_some, start, whole]
  rfl

/-- The text of a value is read as the value. -/
theorem IsExact.read?_render
    {json : Json}
    (exact : json.IsExact) :
    read? json.render = some json :=
  exact.tells.read?

/-- The bytes of the text of a value are read as the value. -/
theorem IsExact.readBytes?_render
    {json : Json}
    (exact : json.IsExact) :
    readBytes? (Text.utf8String json.render) = some json := by
  rw [readBytes?, Text.ofUtf8?_utf8String]
  exact exact.read?_render

end Json
end Delegation
