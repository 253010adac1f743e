/-
Module: TraceFilter.Proofs.WritableSessions
Purpose: A session to which nothing is handed over but values that can be written holds nothing
  else.
Main exports: Value.closed_isWritable, Stored.IsWritable, Session.IsWritable, Step.IsWritable,
  Session.IsWritable.step, Session.isWritable_start
-/
import TraceFilter.Proofs.SessionInvariants

namespace TraceFilter

/-- What a value is made of decides whether it can be written. -/
theorem Value.closed_isWritable : Closed (·.isWritable = true) where
  null := rfl
  text := isWritable_text
  int := fun writable => writable
  list_iff := isWritable_list_iff
  entry := isWritable_mapping_iff.1
  noEntries := rfl
  put := by
    intro entries key value _ mapping ofKey ofValue
    rw [isWritable_mapping_iff] at mapping ⊢
    exact @Entries.forall_mem_put entries key value (·.isWritable = true) (·.isWritable = true)
      mapping ofKey ofValue

/-! ### What is held can be written -/

/-- Whether all parts of what is held can be written. -/
def Stored.IsWritable (held : Stored) : Prop :=
  held.Holds (·.isWritable = true) fun _ => True

/-- A draft with members that can be written is built as a draft that can be. -/
theorem Stored.IsWritable.shape {draft : OpenedDraft}
    (writable : (Stored.opened draft).IsWritable) :
    draft.shape.IsWritable :=
  OpenedDraft.holds_shape Value.closed_isWritable writable

/-- Whether all that a step hands over can be written. -/
def Step.IsWritable (next : Step) : Prop :=
  ∀ value ∈ next.values, value.isWritable = true

instance (next : Step) : Decidable next.IsWritable :=
  inferInstanceAs (Decidable (∀ value ∈ next.values, value.isWritable = true))

namespace Session

/-- Whether all that a session holds can be written. -/
def IsWritable (session : Session) : Prop :=
  session.Holds (·.isWritable = true) fun _ => True

theorem isWritable_start (surroundings : Surroundings) : (start surroundings).IsWritable :=
  holds_start surroundings

theorem invariant_isWritable : Invariant (·.isWritable = true) fun _ => True where
  toClosed := Value.closed_isWritable
  made := fun _ _ => trivial
  built := fun _ _ => trivial
  builtOpened := fun _ _ => trivial

namespace IsWritable

variable {session : Session} {name operation : String}

theorem step (writable : session.IsWritable) {next : Step} (handed : next.IsWritable) :
    (session.step next).1.IsWritable :=
  invariant_isWritable.step writable handed

theorem of_fetch (writable : session.IsWritable) {register : Register}
    (fetched : session.fetch name = .ok register) : register.held.IsWritable :=
  (writable name register fetched).held

theorem of_fetchFor (writable : session.IsWritable) {held : Stored}
    (fetched : session.fetchFor name operation = .ok held) : held.IsWritable :=
  held_of_fetchFor writable fetched

end IsWritable

end Session

end TraceFilter
