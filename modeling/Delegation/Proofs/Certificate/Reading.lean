import Delegation.Certificate.Basic
import Delegation.Proofs.Certificate.NameText
import Delegation.Proofs.Basic

/-!
# Names read from certificates

Every part of a name that is read from the bytes of a certificate has an attribute, and no key
of an attribute separates anything. So the relative names of the subject and the issuer of a
certificate are the parts of its names exactly if their texts show them.
-/

namespace Delegation

namespace ObjectId

/-- A key has no comma, no equals sign and no plus sign. -/
def isPlainKey (key : List Char) : Bool :=
  key.all fun c => c != ',' && c != '=' && c != '+'

theorem isPlainKey_of_mem_keys : (keys.all fun entry => isPlainKey entry.2.toList) = true := by
  decide +kernel

theorem isPlainKey_intercalate
    {mark : List Char}
    {texts : List (List Char)}
    (plainMark : isPlainKey mark = true)
    (plain : ∀ text ∈ texts, isPlainKey text = true) :
    isPlainKey (mark.intercalate texts) = true := by
  unfold isPlainKey at plainMark plain ⊢
  induction texts with
  | nil => rfl
  | cons text texts inductionHypothesis =>
      obtain ⟨here, further⟩ := List.forall_mem_cons.mp plain
      cases texts with
      | nil => simpa using here
      | cons next texts =>
          rw [List.intercalate_cons_cons, List.all_append, List.all_append, here, plainMark,
            inductionHypothesis further]
          rfl

theorem isPlainKey_toString (number : Nat) : isPlainKey (toString number).toList = true := by
  have digits : (toString number).toList = Nat.toDigits 10 number := String.toList_ofList
  rw [digits, isPlainKey, List.all_eq_true]
  intro c inside
  have digit := Nat.isDigit_of_mem_toDigits (by decide) (by decide) inside
  simp only [Bool.and_eq_true, bne_iff_ne]
  refine ⟨⟨?_, ?_⟩, ?_⟩ <;> rintro rfl <;> exact absurd digit (by decide)

theorem isPlainKey_dotted (id : ObjectId) : isPlainKey id.dotted.toList = true := by
  rw [dotted, String.toList_intercalate]
  refine isPlainKey_intercalate (by decide) ?_
  rw [List.map_map, List.forall_mem_map]
  exact fun number _ => isPlainKey_toString number

/-- Every object identifier has a plain key, whether it has a name or is written in numbers. -/
theorem isPlainKey_key (id : ObjectId) : isPlainKey id.key.toList = true := by
  unfold key
  split
  · rename_i entry found
    exact List.all_eq_true.mp isPlainKey_of_mem_keys entry (List.mem_of_find?_eq_some found)
  · exact isPlainKey_dotted id

end ObjectId

namespace Certificate

section Attributes

variable {α β : Type}

theorem exists_of_mem_leading
    {read : α → Option β}
    {items : List α}
    {value : β}
    (member : value ∈ leading read items) :
    ∃ item, read item = some value := by
  induction items with
  | nil => exact absurd member List.not_mem_nil
  | cons item items inductionHypothesis =>
      rw [leading] at member
      split at member
      · rename_i found first
        rcases List.mem_cons.mp member with rfl | further
        · exact ⟨item, first⟩
        · exact inductionHypothesis further
      · exact absurd member List.not_mem_nil

/-- A relative name that is read has attributes. -/
theorem part?_ne_nil
    {element : Der.Element}
    {part : List Attribute}
    (read : part? element = some part) :
    part ≠ [] := by
  unfold part? at read
  split at read
  · split at read
    · contradiction
    · rename_i attributes filled
      obtain rfl := Option.some.inj read
      exact filled
  · contradiction

/-- An attribute that has a text is written with a plain key. -/
theorem plainKey_of_text?
    {source : Attribute}
    {item : TextAttribute}
    (text : source.text? = some item) :
    item.PlainKey := by
  unfold Attribute.text? at text
  split at text
  · obtain ⟨value, -, rfl⟩ := Option.map_eq_some_iff.mp text
    have plain := source.type.isPlainKey_key
    simp only [ObjectId.isPlainKey, List.all_eq_true, Bool.and_eq_true, bne_iff_ne] at plain
    exact ⟨fun inside => (plain _ inside).1.1 rfl, fun inside => (plain _ inside).1.2 rfl,
      fun inside => (plain _ inside).2 rfl⟩
  · contradiction

end Attributes

section Names

variable {bytes : List UInt8} {certificate : Certificate} {name : Name}
variable {parts : List (List TextAttribute)}

/-- The texts of a name without empty parts are well formed. -/
theorem wellFormed_of_texts?
    (filled : ∀ part ∈ name, part ≠ [])
    (texts : name.texts? = some parts) :
    WellFormed parts :=
  forall_mem_of_mapM texts fun part member _ mapped =>
    ⟨ne_nil_of_mapM mapped (filled part member),
      forall_mem_of_mapM mapped fun _ _ _ => plainKey_of_text?⟩

theorem forall_mem_nameOf (contents : List UInt8) : ∀ part ∈ nameOf contents, part ≠ [] := by
  intro part member
  obtain ⟨element, read⟩ := exists_of_mem_leading member
  exact part?_ne_nil read

theorem exists_nameOf_of_signedPart?
    (read : signedPart? bytes = some certificate) :
    ∃ subject issuer, certificate = ⟨nameOf subject, nameOf issuer⟩ := by
  simp only [signedPart?, Option.bind_eq_bind, Option.bind_eq_some_iff] at read
  obtain ⟨_, -, _, -, _, -, issuer, -, _, -, subject, -, _, -, _, -, _, -, names⟩ := read
  split at names
  · exact ⟨subject.1, issuer.1, (Option.some.inj names).symm⟩
  · contradiction

/-- Both names of a certificate are what their elements read as. -/
theorem exists_nameOf_of_ofDer?
    (read : ofDer? bytes = some certificate) :
    ∃ subject issuer, certificate = ⟨nameOf subject, nameOf issuer⟩ := by
  simp only [ofDer?, Option.bind_eq_bind, Option.bind_eq_some_iff] at read
  obtain ⟨_, -, _, -, signed, signedRead, _, -, _, -, same⟩ := read
  obtain rfl := Option.some.inj same
  exact exists_nameOf_of_signedPart? signedRead

/-- The subject and the issuer of the certificate in some bytes, if all their values are text. -/
def nameTexts? (bytes : List UInt8) :
    Option (List (List TextAttribute) × List (List TextAttribute)) := do
  let certificate ← ofDer? bytes
  some (← certificate.subject.texts?, ← certificate.issuer.texts?)

variable {subject issuer : List (List TextAttribute)}

theorem exists_certificate_of_nameTexts?
    (texts : nameTexts? bytes = some (subject, issuer)) :
    ∃ certificate, ofDer? bytes = some certificate ∧
      certificate.subject.texts? = some subject ∧ certificate.issuer.texts? = some issuer := by
  simp only [nameTexts?, Option.bind_eq_bind, Option.bind_eq_some_iff] at texts
  obtain ⟨certificate, read, _, subjectTexts, _, issuerTexts, same⟩ := texts
  obtain ⟨rfl, rfl⟩ := Prod.mk.inj (Option.some.inj same)
  exact ⟨certificate, read, subjectTexts, issuerTexts⟩

/-- The names that are read from the bytes of a certificate are well formed. -/
theorem wellFormed_of_nameTexts?
    (texts : nameTexts? bytes = some (subject, issuer)) :
    WellFormed subject ∧ WellFormed issuer := by
  obtain ⟨certificate, read, subjectTexts, issuerTexts⟩ := exists_certificate_of_nameTexts? texts
  obtain ⟨subjectBytes, issuerBytes, rfl⟩ := exists_nameOf_of_ofDer? read
  exact ⟨wellFormed_of_texts? (forall_mem_nameOf subjectBytes) subjectTexts,
    wellFormed_of_texts? (forall_mem_nameOf issuerBytes) issuerTexts⟩

/-- Where the names of a certificate have texts, its pair is of these names, written out. -/
theorem pairOfDer_of_nameTexts?
    (texts : nameTexts? bytes = some (subject, issuer)) :
    pairOfDer bytes = .ok (.ofNames (renderName subject) (renderName issuer)) := by
  obtain ⟨certificate, read, subjectTexts, issuerTexts⟩ := exists_certificate_of_nameTexts? texts
  simp [pairOfDer, read, pair, Name.render?, subjectTexts, issuerTexts]

/-- The relative names of a name in a pair are the parts of a name of a certificate, the most
specific one first, each in its normal form. -/
def ReadsAs (name : String) (parts : List (List TextAttribute)) : Prop :=
  Dn.rdns name.toList = parts.reverse.map fun part => Dn.normalizeRdn (renderPart part)

/-- The names in a certificate are rendered faithfully exactly if their texts show their parts.
Certificates whose subjects show their parts and attributes have the same subject only if these
attributes are the same, up to letter case and blanks. -/
theorem pairOfDer_faithful
    {other : List UInt8}
    {otherSubject otherIssuer : List (List TextAttribute)}
    (texts : nameTexts? bytes = some (subject, issuer))
    (otherTexts : nameTexts? other = some (otherSubject, otherIssuer)) :
    ∃ pair otherPair, pairOfDer bytes = .ok pair ∧ pairOfDer other = .ok otherPair ∧
      (ReadsAs pair.subject subject ↔ ShowsParts subject) ∧
      (ReadsAs pair.issuer issuer ↔ ShowsParts issuer) ∧
      (ShowsParts subject → ShowsParts otherSubject →
        ShowsAttributes subject → ShowsAttributes otherSubject →
        pair.subject = otherPair.subject → forms subject = forms otherSubject) := by
  obtain ⟨subjectFormed, issuerFormed⟩ := wellFormed_of_nameTexts? texts
  obtain ⟨otherFormed, -⟩ := wellFormed_of_nameTexts? otherTexts
  refine ⟨_, _, pairOfDer_of_nameTexts? texts, pairOfDer_of_nameTexts? otherTexts, ?_, ?_, ?_⟩
  · exact rdns_normalize_renderName_iff subjectFormed
  · exact rdns_normalize_renderName_iff issuerFormed
  · exact forms_eq_of_normalize_eq subjectFormed otherFormed

end Names

/-! Three small certificates. -/

namespace Sample

/-- An element with short contents. -/
def element (tag : UInt8) (contents : List UInt8) : List UInt8 :=
  tag :: UInt8.ofNat contents.length :: contents

/-- A part of a name with one attribute. -/
def partBytes (type : UInt8) (value : String) : List UInt8 :=
  element 0x31 (element 0x30 (element 0x06 [0x55, 0x04, type] ++
    element 0x0C (Text.utf8String value)))

/-- A certificate for a subject, issued by one authority. -/
def certificateBytes (subject : List UInt8) : List UInt8 :=
  let algorithm := element 0x30 (element 0x06 [0x2A, 0x03])
  let bits := element 0x03 [0x00, 0x00]
  let time := element 0x17 (Text.utf8String "240101000000Z")
  element 0x30 (element 0x30 (element 0x02 [0x01] ++ algorithm ++
    element 0x30 (partBytes 0x03 "CA") ++ element 0x30 (time ++ time) ++ element 0x30 subject ++
    element 0x30 (algorithm ++ bits)) ++ algorithm ++ bits)

/-- The issuer of the certificates. -/
def issuer : List (List TextAttribute) := [[⟨"CN", "CA"⟩]]

/-- A name with two parts. -/
def alice : List (List TextAttribute) := [[⟨"O", "X, Inc."⟩], [⟨"CN", "Alice"⟩]]

/-- The same name in small letters and with a blank. -/
def smallAlice : List (List TextAttribute) := [[⟨"O", "x, inc."⟩], [⟨"CN", " alice"⟩]]

/-- The certificate of a name with two parts. -/
def aliceBytes : List UInt8 := certificateBytes (partBytes 0x0A "X, Inc." ++ partBytes 0x03 "Alice")

/-- The certificate of the same name in small letters. -/
def smallAliceBytes : List UInt8 :=
  certificateBytes (partBytes 0x0A "x, inc." ++ partBytes 0x03 " alice")

/-- Certificates whose subjects differ in letter case and blanks. -/
theorem pairOfDer_faithful_alice :
    nameTexts? aliceBytes = some (alice, issuer) ∧
      nameTexts? smallAliceBytes = some (smallAlice, issuer) ∧
      ∃ pair otherPair,
        pairOfDer aliceBytes = .ok pair ∧ pairOfDer smallAliceBytes = .ok otherPair ∧
        ReadsAs pair.subject alice ∧ ReadsAs pair.issuer issuer ∧
        (pair.subject = otherPair.subject → forms alice = forms smallAlice) := by
  have texts : nameTexts? aliceBytes = some (alice, issuer) := by decide +kernel
  have otherTexts : nameTexts? smallAliceBytes = some (smallAlice, issuer) := by decide +kernel
  have shown : ShowsParts alice ∧ ShowsParts issuer ∧ ShowsAttributes alice := by decide +kernel
  have otherShown : ShowsParts smallAlice ∧ ShowsAttributes smallAlice := by decide +kernel
  obtain ⟨pair, otherPair, read, otherRead, subjects, issuers, apart⟩ :=
    pairOfDer_faithful texts otherTexts
  exact ⟨texts, otherTexts, pair, otherPair, read, otherRead, subjects.mpr shown.1,
    issuers.mpr shown.2.1, apart shown.1 otherShown.1 shown.2.2 otherShown.2⟩

/-- A name with one part, whose value holds a backslash in front of a comma. -/
def onePart : List (List TextAttribute) := [[⟨"CN", "x\\,O=y"⟩]]

/-- A name with two parts, the more specific of which ends with two backslashes. -/
def twoParts : List (List TextAttribute) := [[⟨"O", "y"⟩], [⟨"CN", "x\\\\"⟩]]

/-- The certificate of the name with one part. -/
def onePartBytes : List UInt8 := certificateBytes (partBytes 0x03 "x\\,O=y")

/-- The certificate of the name with two parts. -/
def twoPartsBytes : List UInt8 :=
  certificateBytes (partBytes 0x0A "y" ++ partBytes 0x03 "x\\\\")

/-- Two certificates for different names have the same subject, and one of the names has another
number of parts than its subject has relative names. -/
theorem pairOfDer_confuses :
    nameTexts? onePartBytes = some (onePart, issuer) ∧
      nameTexts? twoPartsBytes = some (twoParts, issuer) ∧ forms onePart ≠ forms twoParts ∧
      ∃ pair, pairOfDer onePartBytes = .ok pair ∧ pairOfDer twoPartsBytes = .ok pair ∧
        (Dn.rdns pair.subject.toList).length ≠ onePart.length := by
  refine ⟨by decide +kernel, by decide +kernel, by decide +kernel, ?_⟩
  refine ⟨.ofNames (renderName onePart) (renderName issuer), ?_⟩
  decide +kernel

end Sample

end Certificate
end Delegation
