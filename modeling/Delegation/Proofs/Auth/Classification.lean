import Delegation.Proofs.Auth.Directory
import Delegation.Proofs.Dn.NormalForm
import Delegation.Proofs.Text.AsciiCase

/-!
# Servers by their units

A directory takes a principal for a server when an organizational unit of its subject is listed.
The subject is in normal form then, lower-cased in full, and the list is read as it was written,
up to the case of A to Z. So a unit is found where it is listed in a form in which lower-casing
would change none but these letters. Which units a subject has is seen from its normal form, which
keeps them unless a comma comes to be protected.
-/

namespace Delegation
namespace Dn

/-- A relative name is a listed unit: its key is `ou` in any case, and its value is the same as
that of a list entry after trimming and lower-casing. -/
def IsListedUnit
    (units : List String)
    (rdn : List Char) : Prop :=
  ∃ key value, keyAndValue rdn = some (key, value) ∧
    Text.lower key = "ou".toList ∧
      ∃ unit ∈ units, Text.lower (Text.trim unit.toList) = Text.lower value

/-- Some relative name of a name is a listed unit. -/
def BelongsTo
    (units : List String)
    (dn : List Char) : Prop :=
  ∃ rdn ∈ rdns dn, IsListedUnit units rdn

/-- The entries of a list in which lower-casing changes none but the letters A to Z. -/
def asciiCased (units : List String) : List String :=
  units.filter fun unit => decide (Text.LowersAsAscii (Text.trim unit.toList))

variable {units : List String} {rdn dn key value : List Char}

theorem mem_asciiCased_iff
    {unit : String} :
    unit ∈ asciiCased units ↔
      unit ∈ units ∧ Text.LowersAsAscii (Text.trim unit.toList) := by
  rw [asciiCased, List.mem_filter, decide_eq_true_iff]

theorem IsListedUnit.mono
    {others : List String}
    (listed : IsListedUnit units rdn)
    (subset : ∀ unit ∈ units, unit ∈ others) :
    IsListedUnit others rdn := by
  obtain ⟨key, value, parts, isUnit, unit, inside, same⟩ := listed
  exact ⟨key, value, parts, isUnit, unit, subset unit inside, same⟩

theorem BelongsTo.of_asciiCased (belongs : BelongsTo (asciiCased units) dn) :
    BelongsTo units dn := by
  obtain ⟨rdn, inside, listed⟩ := belongs
  exact ⟨rdn, inside, listed.mono fun unit kept => (mem_asciiCased_iff.mp kept).1⟩

/-- Normalization makes no difference to whether a relative name is a listed unit. -/
theorem isListedUnit_normalizeRdn_iff :
    IsListedUnit units (normalizeRdn rdn) ↔ IsListedUnit units rdn := by
  simp only [IsListedUnit, keyAndValue_normalizeRdn, Option.map_eq_some_iff, Prod.mk.injEq]
  constructor
  · rintro ⟨_, _, ⟨⟨key, value⟩, parts, rfl, rfl⟩, isUnit, listed⟩
    simp only [Text.lower_lower] at isUnit listed
    exact ⟨key, value, parts, isUnit, listed⟩
  · rintro ⟨key, value, parts, isUnit, listed⟩
    refine ⟨_, _, ⟨(key, value), parts, rfl, rfl⟩, ?_⟩
    simpa only [Text.lower_lower] using ⟨isUnit, listed⟩

theorem belongsTo_normalizeChars_iff
    (apart : KeepsApart dn) :
    BelongsTo units (normalizeChars dn) ↔ BelongsTo units dn := by
  simp only [BelongsTo, (rdns_normalizeChars_eq_iff dn).mpr apart, List.mem_map,
    exists_exists_and_eq_and, isListedUnit_normalizeRdn_iff]

/-- A key in lower case is `ou` in any case exactly if it is `ou`. -/
theorem eqIgnoringAsciiCase_ou_iff
    (small : Text.lower key = key) :
    Text.eqIgnoringAsciiCase key "ou".toList = true ↔ Text.lower key = "ou".toList := by
  have lowered : Text.asciiLower key = Text.lower key := by
    rw [← small, Text.asciiLower_lower, Text.lower_lower]
  have ou : Text.asciiLower "ou".toList = "ou".toList := by decide
  rw [Text.eqIgnoringAsciiCase, beq_iff_eq, lowered, ou]

/-- The parts of a relative name in normal form are in lower case. -/
theorem lower_of_keyAndValue
    (normal : normalizeRdn rdn = rdn)
    (parts : keyAndValue rdn = some (key, value)) :
    Text.lower key = key ∧ Text.lower value = value := by
  rw [← normal, keyAndValue_normalizeRdn, Option.map_eq_some_iff] at parts
  obtain ⟨⟨front, back⟩, -, same⟩ := parts
  obtain ⟨rfl, rfl⟩ := Prod.mk.inj same
  exact ⟨Text.lower_lower front, Text.lower_lower back⟩

/-- In a normal form, the units that are found are those that are listed with capitals of A to Z
at most. -/
theorem hasListedUnit_normalize_iff
    {name : String} :
    hasListedUnit (normalize name) units = true ↔
      BelongsTo (asciiCased units) (normalizeChars name.toList) := by
  rw [hasListedUnit, toList_normalize, List.any_eq_true, BelongsTo]
  refine exists_congr fun rdn => and_congr_right fun inside => ?_
  have normal := normalizeRdn_of_mem_rdns inside
  cases parts : keyAndValue rdn with
  | none => simp [IsListedUnit, parts]
  | some both =>
      obtain ⟨key, value⟩ := both
      obtain ⟨keySmall, valueSmall⟩ := lower_of_keyAndValue normal parts
      have found : (units.any fun unit =>
            Text.eqIgnoringAsciiCase (Text.trim unit.toList) value) = true ↔
          ∃ unit ∈ asciiCased units, Text.lower (Text.trim unit.toList) = Text.lower value := by
        rw [List.any_eq_true]
        refine exists_congr fun unit => ?_
        rw [mem_asciiCased_iff, ← valueSmall, Text.eqIgnoringAsciiCase_lower_iff, Text.lower_lower,
          and_assoc, and_congr_right_iff]
        exact fun _ => and_comm
      simp only [Bool.and_eq_true, eqIgnoringAsciiCase_ou_iff keySmall, found]
      simp [IsListedUnit, parts]

end Dn

namespace Directory

variable {directory : Directory} {subject issuer : String} {roles auths : NameSet} {created : Int}

theorem classify_server_iff :
    (directory.classify (.ofNames subject issuer) roles auths created).type = .server ↔
      Dn.BelongsTo (Dn.asciiCased directory.serverUnits) (Dn.normalizeChars subject.toList) := by
  rw [← Dn.hasListedUnit_normalize_iff, classify, DnPair.subject_ofNames]
  dsimp only
  split <;> simp_all

/-- A principal with a subject whose commas stay as they are is registered as a server exactly if
a unit of the subject is listed in a form in which lower-casing changes none but the letters A to
Z. So the type is right exactly if some listed unit of the subject is listed so. -/
theorem register_server_iff
    (apart : Dn.KeepsApart subject.toList)
    (directory : Directory)
    (issuer : String)
    (roles auths : NameSet)
    (created : Int) :
    ∃ identity,
      (directory.register (.ofNames subject issuer) roles auths created).get?
          (.ofNames subject issuer) = some identity ∧
        (identity.type = .server ↔
          Dn.BelongsTo (Dn.asciiCased directory.serverUnits) subject.toList) ∧
        ((identity.type = .server ↔ Dn.BelongsTo directory.serverUnits subject.toList) ↔
          (Dn.BelongsTo directory.serverUnits subject.toList →
            Dn.BelongsTo (Dn.asciiCased directory.serverUnits) subject.toList)) := by
  have server : (directory.classify (.ofNames subject issuer) roles auths created).type = .server ↔
      Dn.BelongsTo (Dn.asciiCased directory.serverUnits) subject.toList :=
    classify_server_iff.trans (Dn.belongsTo_normalizeChars_iff apart)
  refine ⟨_, get?_register directory _ roles auths created, server, ?_⟩
  rw [server]
  exact ⟨Iff.mpr, fun found => ⟨Dn.BelongsTo.of_asciiCased, found⟩⟩

/-- A directory in which one unit is listed. -/
def listing (unit : String) : Directory := .empty [unit]

/-- A host of that unit. -/
def hostOf (unit : String) : String := "cn=host,ou=" ++ unit

theorem register_server_iff_sample :
    Dn.KeepsApart (hostOf "servers").toList ∧
      Dn.BelongsTo (Dn.asciiCased (listing "Servers").serverUnits) (hostOf "servers").toList ∧
        ∃ identity,
          ((listing "Servers").register (.ofNames (hostOf "servers") "cn=ca") ∅ ∅ 0).get?
              (.ofNames (hostOf "servers") "cn=ca") = some identity ∧
            identity.type = .server := by
  have apart : Dn.KeepsApart (hostOf "servers").toList := by decide +kernel
  have belongs :
      Dn.BelongsTo (Dn.asciiCased (listing "Servers").serverUnits) (hostOf "servers").toList :=
    ⟨"ou=servers".toList, by decide +kernel, "ou".toList, "servers".toList, by decide +kernel,
      by decide +kernel, "Servers", by decide +kernel, by decide +kernel⟩
  obtain ⟨identity, stored, server, -⟩ :=
    register_server_iff apart (listing "Servers") "cn=ca" ∅ ∅ 0
  exact ⟨apart, belongs, identity, stored, server.mpr belongs⟩

/-- A host of a listed unit is registered as a user, for all that the unit is listed as it is
written in the name: lower-casing makes it a unit that the list does not have. -/
theorem register_user_of_listed_unit :
    Dn.KeepsApart (hostOf "Ünit").toList ∧
      Dn.BelongsTo (listing "Ünit").serverUnits (hostOf "Ünit").toList ∧
        ∃ identity,
          ((listing "Ünit").register (.ofNames (hostOf "Ünit") "cn=ca") ∅ ∅ 0).get?
              (.ofNames (hostOf "Ünit") "cn=ca") = some identity ∧
            identity.type = .user := by
  have belongs : Dn.BelongsTo (listing "Ünit").serverUnits (hostOf "Ünit").toList :=
    ⟨"ou=Ünit".toList, by decide +kernel, "ou".toList, "Ünit".toList, by decide +kernel,
      by decide +kernel, "Ünit", by decide +kernel, rfl⟩
  refine ⟨by decide +kernel, belongs, _, get?_register _ _ _ _ _, ?_⟩
  decide +kernel

end Directory
end Delegation
