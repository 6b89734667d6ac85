import Delegation.Proofs.Dn.HeaderRoundTrip

/-!
# Written pairs

Nothing in the names of a pair is escaped when the pair is written as `subject<issuer>`. A text
is the written form of at most one subject and issuer, and a pair is read back from its written
form unless a name is missing or holds a bracket in the wrong place. Whether a name is missing is
asked of the text that is read and not of its normal form, so a name of blanks and commas is
read, and the pair that is made of it cannot be read again.
-/

namespace Delegation
namespace DnPair

/-- A text consists of a subject and of an issuer in brackets, with no bracket that would make
it look otherwise. -/
structure Writes (text subject issuer : List Char) : Prop where
  parts : text = subject ++ Dn.bracketed issuer
  subject : '<' ∉ subject
  issuer : Dn.Unbracketed issuer

/-- A text is a written pair whose names both have something besides blanks and commas. -/
def NamesBoth (text : List Char) : Prop :=
  ∃ subject issuer, Writes text subject issuer ∧
    Dn.NamesSomething subject ∧ Dn.NamesSomething issuer

/-- A complete pair whose names hold no bracket that reading would stumble over. -/
structure IsReadable (pair : DnPair) : Prop extends pair.IsComplete where
  subject_unopened : '<' ∉ pair.subject.toList
  issuer_unbracketed : Dn.Unbracketed pair.issuer.toList

instance (pair : DnPair) : Decidable pair.IsReadable :=
  decidable_of_iff
    ((pair.subject ≠ "" ∧ pair.issuer ≠ "") ∧
      '<' ∉ pair.subject.toList ∧ Dn.Unbracketed pair.issuer.toList)
    ⟨fun ⟨⟨subject, issuer⟩, unopened, unbracketed⟩ => ⟨⟨subject, issuer⟩, unopened, unbracketed⟩,
      fun readable => ⟨⟨readable.subject, readable.issuer⟩, readable.subject_unopened,
        readable.issuer_unbracketed⟩⟩

section Reading

variable {text subject issuer otherSubject otherIssuer : List Char}

/-- Two names next to each other are told apart by their brackets. -/
theorem writes_append_bracketed_iff :
    Writes (subject ++ Dn.bracketed issuer) otherSubject otherIssuer ↔
      (otherSubject = subject ∧ otherIssuer = issuer) ∧
        '<' ∉ subject ∧ Dn.Unbracketed issuer := by
  constructor
  · rintro ⟨same, subjectUnopened, issuerUnbracketed⟩
    -- The other reading has a single opening bracket, so the subject holds none.
    have count := congrArg (List.count '<') same
    have unopened : '<' ∉ subject := by
      rw [← List.count_eq_zero] at subjectUnopened ⊢
      have issuerCount := List.count_eq_zero.mpr issuerUnbracketed.1
      simp [Dn.bracketed, List.count_append, subjectUnopened, issuerCount] at count
      omega
    obtain ⟨rfl, rest⟩ := Text.append_cons_inj unopened subjectUnopened same
    obtain rfl := List.append_cancel_right rest
    exact ⟨⟨rfl, rfl⟩, unopened, issuerUnbracketed⟩
  · rintro ⟨⟨rfl, rfl⟩, unopened, unbracketed⟩
    exact ⟨rfl, unopened, unbracketed⟩

theorem mem_append_bracketed (subject issuer : List Char) :
    '<' ∈ subject ++ Dn.bracketed issuer := by
  simp [Dn.bracketed]

theorem Writes.unique
    (writes : Writes text subject issuer)
    (other : Writes text otherSubject otherIssuer) :
    otherSubject = subject ∧ otherIssuer = issuer :=
  (writes_append_bracketed_iff.mp (writes.parts ▸ other)).1

theorem Writes.namesBoth_iff
    (writes : Writes text subject issuer) :
    NamesBoth text ↔ Dn.NamesSomething subject ∧ Dn.NamesSomething issuer := by
  constructor
  · rintro ⟨otherSubject, otherIssuer, other, both⟩
    obtain ⟨rfl, rfl⟩ := writes.unique other
    exact both
  · intro both
    exact ⟨subject, issuer, writes, both⟩

/-- The names that are found in a text are those that it writes, if neither is blank. -/
theorem namesOf?_eq_some_iff :
    namesOf? text = some (subject, issuer) ↔
      Writes text subject issuer ∧ Text.trim subject ≠ [] ∧ Text.trim issuer ≠ [] := by
  constructor
  · intro found
    rcases Text.not_mem_or_cut '<' text with absent | ⟨front, rest, rfl, unopened⟩
    · rw [namesOf?, Text.cutFirst_eq_none.mpr absent] at found
      cases found
    · rw [namesOf?, Text.cutFirst_append_cons unopened] at found
      dsimp only at found
      split at found
      · rename_i inner last
        obtain ⟨rfl, -⟩ := Text.cutLast_eq_some_iff.mp last
        simp only [Option.ite_none_left_eq_some, Bool.or_eq_true, not_or, Option.some.injEq,
          Prod.mk.injEq, List.contains_iff_mem, Text.isBlankText, List.isEmpty_iff] at found
        obtain ⟨⟨⟨⟨noOpening, noClosing⟩, subjectVisible⟩, issuerVisible⟩, rfl, rfl⟩ := found
        exact ⟨⟨rfl, unopened, noOpening, noClosing⟩, subjectVisible, issuerVisible⟩
      · cases found
  · rintro ⟨⟨rfl, unopened, unbracketed⟩, subjectVisible, issuerVisible⟩
    have last : Text.cutLast '>' (issuer ++ ['>']) = some (issuer, []) :=
      Text.cutLast_eq_some_iff.mpr ⟨rfl, List.not_mem_nil⟩
    rw [namesOf?, Dn.bracketed, Text.cutFirst_append_cons unopened]
    simp [last, unbracketed.1, unbracketed.2, Text.isBlankText, subjectVisible, issuerVisible]

end Reading

section Parsing

variable {text : String} {pair other : DnPair}

theorem parse_of_opened
    (opened : '<' ∈ Text.trim text.toList) :
    parse text =
      match namesOf? (Text.trim text.toList) with
      | some (subject, issuer) => .ok (ofNames (String.ofList subject) (String.ofList issuer))
      | none => .error (.malformed (String.ofList (Text.trim text.toList))) :=
  if_pos (List.contains_iff_mem.mpr opened)

theorem parse_of_unopened
    (unopened : '<' ∉ Text.trim text.toList) :
    parse text = .error (.missingIssuer (String.ofList (Text.trim text.toList))) :=
  if_neg (mt List.contains_iff_mem.mp unopened)

/-- A text is read as a pair exactly if it writes two names, neither of them blank. -/
theorem parse_eq_ok_iff :
    parse text = .ok pair ↔
      ∃ subject issuer, Writes (Text.trim text.toList) subject issuer ∧
        (Text.trim subject ≠ [] ∧ Text.trim issuer ≠ []) ∧
        ofNames (String.ofList subject) (String.ofList issuer) = pair := by
  constructor
  · intro parsed
    by_cases opened : '<' ∈ Text.trim text.toList
    · rw [parse_of_opened opened] at parsed
      cases found : namesOf? (Text.trim text.toList) with
      | none => simp [found] at parsed
      | some names =>
          obtain ⟨writes, visible⟩ := namesOf?_eq_some_iff.mp found
          rw [found] at parsed
          exact ⟨names.1, names.2, writes, visible, Except.ok.inj parsed⟩
    · simp [parse_of_unopened opened] at parsed
  · rintro ⟨subject, issuer, writes, visible, rfl⟩
    have opened : '<' ∈ Text.trim text.toList := writes.parts ▸ mem_append_bracketed subject issuer
    rw [parse_of_opened opened, namesOf?_eq_some_iff.mpr ⟨writes, visible⟩]

theorem toList_render (pair : DnPair) :
    pair.render.toList = pair.subject.toList ++ Dn.bracketed pair.issuer.toList := by
  simp [render, Dn.bracketed]

/-- Neither end of a written pair is blank. -/
theorem trim_toList_render (pair : DnPair) :
    Text.trim pair.render.toList = pair.render.toList := by
  rw [toList_render, Dn.bracketed, Text.trim_append_cons (by decide),
    Text.trimLeft_of_trim (Dn.trim_toList_of_normalize pair.normalize_subject),
    Text.trimRight_concat_of_not_isBlank _ (by decide)]

theorem parse_render_eq_ok_iff :
    parse pair.render = .ok other ↔ pair.IsReadable ∧ other = pair := by
  have subjectTrimmed := Dn.trim_toList_of_normalize pair.normalize_subject
  have issuerTrimmed := Dn.trim_toList_of_normalize pair.normalize_issuer
  rw [parse_eq_ok_iff, trim_toList_render, toList_render]
  constructor
  · rintro ⟨subject, issuer, writes, ⟨subjectVisible, issuerVisible⟩, rfl⟩
    obtain ⟨⟨rfl, rfl⟩, unopened, unbracketed⟩ := writes_append_bracketed_iff.mp writes
    rw [subjectTrimmed] at subjectVisible
    rw [issuerTrimmed] at issuerVisible
    have complete : pair.IsComplete := ⟨by simpa using subjectVisible, by simpa using issuerVisible⟩
    refine ⟨⟨complete, unopened, unbracketed⟩, ?_⟩
    rw [String.ofList_toList, String.ofList_toList, ofNames_self]
  · rintro ⟨readable, rfl⟩
    refine ⟨_, _, writes_append_bracketed_iff.mpr
      ⟨⟨rfl, rfl⟩, readable.subject_unopened, readable.issuer_unbracketed⟩, ⟨?_, ?_⟩, ?_⟩
    · rw [subjectTrimmed]
      simpa using readable.subject
    · rw [issuerTrimmed]
      simpa using readable.issuer
    · rw [String.ofList_toList, String.ofList_toList, ofNames_self]

theorem parse_render_of_not_isReadable
    (unreadable : ¬ pair.IsReadable) :
    parse pair.render = .error (.malformed pair.render) := by
  have opened : '<' ∈ Text.trim pair.render.toList := by
    rw [trim_toList_render, toList_render]
    exact mem_append_bracketed _ _
  have refused : namesOf? (Text.trim pair.render.toList) = none := by
    by_contra found
    obtain ⟨names, found⟩ := Option.ne_none_iff_exists'.mp found
    have parsed := parse_of_opened opened
    rw [found] at parsed
    exact unreadable (parse_render_eq_ok_iff.mp parsed).1
  rw [parse_of_opened opened, refused, trim_toList_render, String.ofList_toList]

/-- A pair is read back from its written form exactly if it is readable. Every other written
form is refused as malformed, so none is read as a different pair. -/
theorem reads_back_iff (pair : DnPair) :
    (parse pair.render = .ok pair ↔ pair.IsReadable) ∧
      (parse pair.render = .ok pair ∨ parse pair.render = .error (.malformed pair.render)) := by
  have readBack : parse pair.render = .ok pair ↔ pair.IsReadable := by
    rw [parse_render_eq_ok_iff, and_iff_left rfl]
  refine ⟨readBack, ?_⟩
  by_cases readable : pair.IsReadable
  · exact .inl (readBack.mpr readable)
  · exact .inr (parse_render_of_not_isReadable readable)

example : (ofNames "cn=a>b" "cn=ca").IsReadable ∧ ¬ (ofNames "cn=a<b" "cn=ca").IsReadable := by
  decide +kernel

/-- The names of a pair that was read hold no bracket in the wrong place, so only a missing name
can make it unreadable. -/
theorem isReadable_iff_of_parse
    (parsed : parse text = .ok pair) :
    pair.IsReadable ↔ pair.IsComplete := by
  obtain ⟨subject, issuer, writes, -, rfl⟩ := parse_eq_ok_iff.mp parsed
  constructor
  · exact IsReadable.toIsComplete
  · intro complete
    refine ⟨complete, ?_, ?_⟩
    · rw [subject_ofNames, Dn.toList_normalize, String.toList_ofList]
      exact fun inside =>
        writes.subject (Dn.mem_of_mem_normalizeChars (by decide) (by decide) inside)
    · rw [issuer_ofNames, Dn.toList_normalize, String.toList_ofList]
      exact writes.issuer.normalizeChars

/-- A pair that was read has both names and is read back from its own written form exactly if
both names in the text have something besides blanks and commas. -/
theorem read_pair_stable_iff
    (parsed : parse text = .ok pair) :
    pair.IsComplete ∧ parse pair.render = .ok pair ↔ NamesBoth (Text.trim text.toList) := by
  have complete : pair.IsComplete ↔ NamesBoth (Text.trim text.toList) := by
    obtain ⟨subject, issuer, writes, -, rfl⟩ := parse_eq_ok_iff.mp parsed
    rw [isComplete_ofNames_iff, writes.namesBoth_iff, String.toList_ofList, String.toList_ofList]
  rw [parse_render_eq_ok_iff, isReadable_iff_of_parse parsed, and_iff_left rfl, and_self, complete]

/-- A pair is stable although a backslash comes to protect a comma of its subject and a comma of
its issuer is dropped. -/
theorem read_pair_stable_iff_server :
    parse " CN=a\\ ,O=x<CN = CA,> " = .ok (ofNames "CN=a\\ ,O=x" "CN = CA,") ∧
      NamesBoth (Text.trim " CN=a\\ ,O=x<CN = CA,> ".toList) ∧
      (ofNames "CN=a\\ ,O=x" "CN = CA,").IsComplete ∧
      parse (ofNames "CN=a\\ ,O=x" "CN = CA,").render =
        .ok (ofNames "CN=a\\ ,O=x" "CN = CA,") := by
  have parsed : parse " CN=a\\ ,O=x<CN = CA,> " = .ok (ofNames "CN=a\\ ,O=x" "CN = CA,") := by
    decide +kernel
  have named : NamesBoth (Text.trim " CN=a\\ ,O=x<CN = CA,> ".toList) := by
    refine ⟨"CN=a\\ ,O=x".toList, "CN = CA,".toList, ⟨?_, ?_, ?_⟩, ?_, ?_⟩ <;> decide +kernel
  exact ⟨parsed, named, (read_pair_stable_iff parsed).mpr named⟩

/-- A comma is a name that is not blank, its normal form is empty, and the written form of the
pair is refused. -/
theorem read_pair_unstable :
    parse ",<cn=ca>" = .ok (ofNames "," "cn=ca") ∧
      (ofNames "," "cn=ca").subject = "" ∧
      parse (ofNames "," "cn=ca").render = .error (.malformed "<cn=ca>") := by
  decide +kernel

end Parsing

end DnPair
end Delegation
