import Delegation.Dn.Basic

/-!
# Subject and issuer

A principal is known by the distinguished name of its subject together with the name of
the authority that issued it. Both are held in normal form. The written form of a pair
is `subject<issuer>`.
-/

namespace Delegation

/-- A subject name with the name of its issuer, both normal forms. -/
structure DnPair where
  /-- Normal form of the subject's name. -/
  subject : String
  /-- Normal form of the issuer's name. -/
  issuer : String
  /-- The subject is the normal form of some text. -/
  subject_normal : ∃ text, Dn.normalize text = subject
  /-- The issuer is the normal form of some text. -/
  issuer_normal : ∃ text, Dn.normalize text = issuer
  deriving DecidableEq

namespace DnPair

/-- Why a text is not the written form of a pair. -/
inductive Fault
  | missingIssuer (text : String)
  | malformed (text : String)
  deriving DecidableEq

/-- The wording of a fault. -/
def Fault.message : Fault → String
  | .missingIssuer text => "Missing issuer in " ++ text
  | .malformed text => "Malformed DN pair " ++ text

/-- The pair of the normal forms of two names. -/
def ofNames (subject issuer : String) : DnPair where
  subject := Dn.normalize subject
  issuer := Dn.normalize issuer
  subject_normal := ⟨subject, rfl⟩
  issuer_normal := ⟨issuer, rfl⟩

@[simp] theorem subject_ofNames (subject issuer : String) :
    (ofNames subject issuer).subject = Dn.normalize subject := rfl

@[simp] theorem issuer_ofNames (subject issuer : String) :
    (ofNames subject issuer).issuer = Dn.normalize issuer := rfl

/-- Two pairs with the same names are the same pair. -/
@[ext] theorem ext {first second : DnPair} (subjects : first.subject = second.subject)
    (issuers : first.issuer = second.issuer) : first = second := by
  cases first
  cases second
  simp_all

/-- The written form `subject<issuer>`. -/
def render (pair : DnPair) : String :=
  pair.subject ++ "<" ++ pair.issuer ++ ">"

/-- The names inside a written pair: everything before the first `<`, and the text between
it and a final `>`, which holds no further bracket. Neither may be blank. -/
def namesOf? (text : List Char) : Option (List Char × List Char) :=
  match Text.cutFirst '<' text with
  | none => none
  | some (subject, rest) =>
      match Text.cutLast '>' rest with
      | some (issuer, []) =>
          if issuer.contains '<' || issuer.contains '>' || Text.isBlankText subject ||
              Text.isBlankText issuer then
            none
          else
            some (subject, issuer)
      | _ => none

/-- Read a written pair. -/
def parse (text : String) : Except Fault DnPair :=
  let trimmed := Text.trim text.toList
  if trimmed.contains '<' then
    match namesOf? trimmed with
    | some (subject, issuer) => .ok (ofNames (String.ofList subject) (String.ofList issuer))
    | none => .error (.malformed (String.ofList trimmed))
  else
    .error (.missingIssuer (String.ofList trimmed))

/-- Pairs are ordered by subject, then by issuer. -/
protected def le (first second : DnPair) : Bool :=
  decide (first.subject < second.subject) ||
    (first.subject == second.subject && decide (first.issuer ≤ second.issuer))

/-- The distinct pairs of a list in order. -/
def sortDistinct (pairs : List DnPair) : List DnPair :=
  pairs.eraseDups.mergeSort DnPair.le

end DnPair
end Delegation
