import Mathlib.Logic.Relation
import Delegation.Proofs.Authority.Replies

/-!
# Reading a body piece by piece

Under a limit a body is read by adding one piece after the other to the bytes that are held, as
long as these stay within the limit. So what is held is a beginning of the body that never goes
beyond the limit. The end of a body is reached exactly if it stays within the limit as a whole,
and neither that nor the bytes depend on how the body is cut into pieces.
-/

namespace Delegation
namespace Authority
namespace Body

namespace Reading

/-- The next piece is added. -/
def Step (limit : Nat) (reading other : Reading) : Prop :=
  reading.next? limit = .ok (some other)

/-- The next piece would go beyond the limit. -/
def Overflows (limit : Nat) (reading : Reading) : Prop :=
  ∃ chunk left, reading.left = chunk :: left ∧ limit < reading.held.length + chunk.length

/-- All bytes of a body that is being read. -/
def bytes (reading : Reading) : List UInt8 :=
  reading.held ++ reading.left.flatten

variable {limit : Nat} {body : Body} {reading other : Reading}

/-! ## What a step keeps -/

/-- A step adds the piece that comes next to the bytes that are held, which stay within the
limit. -/
theorem step_iff :
    Step limit reading other ↔
      ∃ chunk left, reading.left = chunk :: left ∧
        reading.held.length + chunk.length ≤ limit ∧ other = ⟨reading.held ++ chunk, left⟩ := by
  obtain ⟨held, _ | ⟨chunk, left⟩⟩ := reading
  · simp [Step, next?]
  · rw [Step, next?]
    split
    · rename_i beyond
      simp [Nat.not_le_of_lt beyond]
    · rename_i within
      simp [Nat.not_lt.mp within, eq_comm]

/-- A piece for which there is no room ends the reading. -/
theorem Overflows.next?_eq (overflows : reading.Overflows limit) :
    reading.next? limit = .error (.tooLarge limit) := by
  obtain ⟨chunk, left, comes, beyond⟩ := overflows
  obtain ⟨held, _⟩ := reading
  obtain rfl := comes
  exact if_pos beyond

theorem Step.bytes_eq (step : Step limit reading other) : other.bytes = reading.bytes := by
  obtain ⟨chunk, left, comes, -, rfl⟩ := step_iff.mp step
  simp [bytes, comes]

/-- After a step, no more bytes are held than the bound allows. -/
theorem Step.length_held_le (step : Step limit reading other) : other.held.length ≤ limit := by
  obtain ⟨chunk, left, -, within, rfl⟩ := step_iff.mp step
  rwa [List.length_append]

/-- A step makes no difference to what the reading comes to. -/
theorem Step.collect_eq (step : Step limit reading other) :
    body.collect limit other = body.collect limit reading := by
  rw [collect_of_next? body step]

/-! ## What a run keeps -/

/-- A reading comes to another one by some steps. -/
abbrev Leads (limit : Nat) : Reading → Reading → Prop :=
  Relation.ReflTransGen (Step limit)

/-- Reading on neither loses nor changes bytes. -/
theorem Leads.bytes_eq (leads : Leads limit reading other) : other.bytes = reading.bytes := by
  induction leads with
  | refl => rfl
  | tail _ step inductionHypothesis => rw [step.bytes_eq, inductionHypothesis]

/-- No step goes beyond the limit. -/
theorem Leads.length_held_le
    (leads : Leads limit reading other)
    (within : reading.held.length ≤ limit) :
    other.held.length ≤ limit := by
  induction leads with
  | refl => exact within
  | tail _ step _ => exact step.length_held_le

/-- Whatever point of the reading one goes on from, the result is the same. -/
theorem Leads.collect_eq (leads : Leads limit reading other) :
    body.collect limit other = body.collect limit reading := by
  induction leads with
  | refl => rfl
  | tail _ step inductionHypothesis => rw [step.collect_eq, inductionHypothesis]

theorem Overflows.collect_eq (overflows : reading.Overflows limit) :
    body.collect limit reading = .error (.tooLarge limit) :=
  collect_of_overflow body overflows.next?_eq

/-- The steps end with the last piece or before one that would go beyond the limit. -/
theorem exists_last (limit : Nat) (held : List UInt8) (left : List (List UInt8)) :
    ∃ last, Leads limit ⟨held, left⟩ last ∧ (last.left = [] ∨ last.Overflows limit) := by
  induction left generalizing held with
  | nil => exact ⟨_, .refl, .inl rfl⟩
  | cons chunk left inductionHypothesis =>
      by_cases within : held.length + chunk.length ≤ limit
      · obtain ⟨last, leads, ends⟩ := inductionHypothesis (held ++ chunk)
        exact ⟨last, .head (step_iff.mpr ⟨chunk, left, rfl, within, rfl⟩) leads, ends⟩
      · exact ⟨_, .refl, .inr ⟨chunk, left, rfl, Nat.lt_of_not_le within⟩⟩

end Reading

/-- What a body promises stays within a limit. -/
def PromisesWithin (body : Body) (limit : Nat) : Prop :=
  ∀ promised ∈ body.declared, promised ≤ limit

/-- The reading of a body comes to some reading: it begins with nothing that is held, unless the
body promises too much. -/
def Reaches (body : Body) (limit : Nat) (reading : Reading) : Prop :=
  body.PromisesWithin limit ∧ Reading.Leads limit ⟨[], body.chunks⟩ reading

/-- How a body is read under a limit. -/
structure IsReadUnder (body : Body) (limit : Nat) : Prop where
  /-- A body that neither promises nor has more bytes than the limit is read. -/
  accepts : body.PromisesWithin limit ∧ body.bytes.length ≤ limit →
    body.read (some limit) = .ok body.bytes
  /-- Any other body is refused. -/
  refuses : ¬ (body.PromisesWithin limit ∧ body.bytes.length ≤ limit) →
    body.read (some limit) = .error (.tooLarge limit)
  /-- The bytes that are read are those that are held when no piece is left. -/
  reaches_end : ∀ bytes, body.read (some limit) = .ok bytes ↔ body.Reaches limit ⟨bytes, []⟩
  /-- A body is refused for its promise or at the first piece that would go beyond the limit. -/
  overflows : body.read (some limit) = .error (.tooLarge limit) ↔
    ¬ body.PromisesWithin limit ∨ ∃ reading, body.Reaches limit reading ∧ reading.Overflows limit
  /-- Until then, a beginning of the body within the limit is held. -/
  holds : ∀ reading, body.Reaches limit reading →
    reading.held.length ≤ limit ∧ reading.held ++ reading.left.flatten = body.bytes
  /-- What is read under the limit is what is read without one. -/
  agrees : ∀ bytes, body.read (some limit) = .ok bytes → body.read none = .ok bytes

variable {limit : Nat} {body : Body} {reading : Reading} {bytes : List UInt8}

theorem any_declared_iff :
    body.declared.any (limit < ·) = true ↔ ¬ body.PromisesWithin limit := by
  cases declared : body.declared <;> simp [PromisesWithin, declared]

theorem read_of_promisesWithin (within : body.PromisesWithin limit) :
    body.read (some limit) = body.collect limit ⟨[], body.chunks⟩ :=
  if_neg fun beyond => any_declared_iff.mp beyond within

theorem exceeds_iff :
    body.Exceeds limit ↔ ¬ (body.PromisesWithin limit ∧ body.bytes.length ≤ limit) := by
  rw [Exceeds, any_declared_iff, not_and_or, Nat.not_le]

theorem fits_iff :
    body.Fits (some limit) ↔ body.PromisesWithin limit ∧ body.bytes.length ≤ limit := by
  simp [Fits, exceeds_iff]

/-- A body whose reading reaches its end is read as the bytes held there. -/
theorem Reaches.read_of_end
    (reaches : body.Reaches limit ⟨bytes, []⟩)
    (whole : body.broken = none) :
    body.read (some limit) = .ok bytes := by
  obtain ⟨promised, leads⟩ := reaches
  rw [read_of_promisesWithin promised, ← leads.collect_eq, collect_nil, finish, whole]

/-- A body whose reading comes to a piece without room is refused for its length. -/
theorem Reaches.read_of_overflows
    (reaches : body.Reaches limit reading)
    (overflows : reading.Overflows limit) :
    body.read (some limit) = .error (.tooLarge limit) := by
  obtain ⟨promised, leads⟩ := reaches
  rw [read_of_promisesWithin promised, ← leads.collect_eq, overflows.collect_eq]

theorem Reaches.bytes_eq (reaches : body.Reaches limit reading) :
    reading.held ++ reading.left.flatten = body.bytes :=
  reaches.2.bytes_eq

/-- The reading of a body that does not promise too much comes to its end or to a piece that would
go beyond the limit. -/
theorem PromisesWithin.exists_reaches (promised : body.PromisesWithin limit) :
    (∃ bytes, body.Reaches limit ⟨bytes, []⟩) ∨
      ∃ reading, body.Reaches limit reading ∧ reading.Overflows limit := by
  obtain ⟨⟨held, left⟩, leads, rfl | overflows⟩ := Reading.exists_last limit [] body.chunks
  · exact .inl ⟨held, promised, leads⟩
  · exact .inr ⟨_, ⟨promised, leads⟩, overflows⟩

/-- A whole body is refused exactly if it announces too much or its reading comes to a piece
without room. -/
theorem read_eq_tooLarge_iff (whole : body.broken = none) :
    body.read (some limit) = .error (.tooLarge limit) ↔
      ¬ body.PromisesWithin limit ∨
        ∃ reading, body.Reaches limit reading ∧ reading.Overflows limit := by
  constructor
  · intro refused
    by_cases promised : body.PromisesWithin limit
    · rcases promised.exists_reaches with ⟨bytes, reaches⟩ | overflows
      · rw [reaches.read_of_end whole] at refused
        nomatch refused
      · exact .inr overflows
    · exact .inl promised
  · rintro (beyond | ⟨reading, reaches, overflows⟩)
    · exact read_of_exceeds (.inl (any_declared_iff.mpr beyond))
    · exact reaches.read_of_overflows overflows

/-- A whole body is accepted exactly if its reading reaches the end. -/
theorem read_eq_ok_iff (whole : body.broken = none) :
    body.read (some limit) = .ok bytes ↔ body.Reaches limit ⟨bytes, []⟩ := by
  constructor
  · intro read
    have accepted : ¬ body.read (some limit) = .error (.tooLarge limit) := by
      rw [read]
      nofun
    rw [read_eq_tooLarge_iff whole, not_or, not_not] at accepted
    obtain ⟨other, reaches⟩ := accepted.1.exists_reaches.resolve_right accepted.2
    obtain rfl := Except.ok.inj (read.symm.trans (reaches.read_of_end whole))
    exact reaches
  · exact fun reaches => reaches.read_of_end whole

theorem isReadUnder_of_whole
    (whole : body.broken = none)
    (limit : Nat) :
    body.IsReadUnder limit where
  accepts fits := by rw [read_of_fits (fits_iff.mpr fits), finish, whole]
  refuses unfit := read_of_exceeds (exceeds_iff.mpr unfit)
  reaches_end bytes := read_eq_ok_iff whole
  overflows := read_eq_tooLarge_iff whole
  holds reading reaches := ⟨reaches.2.length_held_le (Nat.zero_le limit), reaches.bytes_eq⟩
  agrees bytes read := by
    have all : bytes ++ [] = body.bytes := ((read_eq_ok_iff whole).mp read).bytes_eq
    rw [List.append_nil] at all
    have unlimited : body.Fits none := by
      intro limit inside
      cases inside
    rw [read_of_fits unlimited, finish, whole, all]

/-- Under any limit, a body that comes in any pieces is read as a whole if neither its promise nor
its length goes beyond the limit, and refused otherwise. Never more than the limit is held. The
same bytes in other pieces make no difference. -/
theorem read_of_any_pieces
    (limit : Nat)
    (declared : Option Nat)
    (pieces : List (List UInt8)) :
    let body : Body := { declared := declared, chunks := pieces }
    body.IsReadUnder limit ∧
      ∀ others : List (List UInt8), others.flatten = pieces.flatten →
        { body with chunks := others }.read (some limit) = body.read (some limit) := by
  intro body
  refine ⟨isReadUnder_of_whole rfl limit, fun others same => ?_⟩
  have bytes : { body with chunks := others }.bytes = body.bytes := same
  rw [read_some, read_some, finish, finish, bytes]

end Body
end Authority
end Delegation
