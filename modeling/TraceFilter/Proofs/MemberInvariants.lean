/-
Module: TraceFilter.Proofs.MemberInvariants
Purpose: What is a matter of what values are made of, and holds of all values that are handed over
  to a draft, holds of all that the draft keeps: whatever is set, added, assigned or deleted.
Main exports: Value.Closed, Value.Closed.items, Value.Closed.entries, Signature.holds_of_bind,
  MembersHold, Edit.Holds, Draft.holds_invoke, OpenedDraft.holds_invoke, OpenedDraft.holds_shape
-/
import TraceFilter.Draft.Opened
import TraceFilter.Proofs.BuildOutcome

namespace TraceFilter

/-! ### Properties that are a matter of what values are made of -/

/-- A property of values is closed if it goes with what values are made of. All texts have it, and
all integers that can be written. A list has it exactly if its items have it. A mapping hands it on
to its keys and values, and is left with it by whatever has it and is put into the mapping. -/
structure Value.Closed (holds : Value → Prop) : Prop where
  null : holds .null
  text : ∀ characters, holds (.text characters)
  int : ∀ {number}, Numeral.isWritable number = true → holds (.int number)
  list_iff : ∀ {items}, holds (.list items) ↔ ∀ item ∈ items, holds item
  entry : ∀ {entries}, holds (.mapping entries) →
    ∀ entry ∈ entries, holds entry.1 ∧ holds entry.2
  noEntries : holds (.mapping [])
  put : ∀ {entries : Entries} {key value}, key.isHashable = true → holds (.mapping entries) →
    holds key → holds value → holds (.mapping (entries.put key value))

namespace Value.Closed

variable {holds : Value → Prop} (closed : Closed holds) {value key item after : Value}

include closed

theorem ofText? (name? : Option String) : holds (.ofText? name?) := by
  cases name? with
  | none => exact closed.null
  | some name => exact closed.text name

theorem insert {entries more : Entries} (mapping : holds (.mapping entries)) (ofKey : holds key)
    (ofValue : holds value) (inserts : entries.insert key value = .ok more) :
    holds (.mapping more) := by
  unfold Entries.insert at inserts
  split at inserts
  · next hashable =>
    cases inserts
    exact closed.put hashable mapping ofKey ofValue
  · cases inserts

/-! ### What a value holds -/

theorem items {items : List Value} (whole : holds value) (gives : value.items = .ok items) :
    ∀ item ∈ items, holds item := by
  cases value with
  | text characters =>
    cases gives
    exact List.forall_mem_map.2 fun _ _ => closed.text _
  | list own =>
    cases gives
    exact closed.list_iff.1 whole
  | mapping own =>
    cases gives
    exact List.forall_mem_map.2 fun entry member => (closed.entry whole entry member).1
  | null | bool | int | float => cases gives

theorem entryOf {index : Nat} {pair : Value × Value} (whole : holds item)
    (gives : item.entry index = .ok pair) : holds pair.1 ∧ holds pair.2 := by
  unfold Value.entry at gives
  split at gives
  · cases gives
  · next first second held =>
    cases gives
    have both := closed.items whole held
    exact ⟨both first List.mem_cons_self, both second (List.mem_cons_of_mem _ List.mem_cons_self)⟩
  · cases gives

theorem putItems {items : List Value} {index : Nat} {entries more : Entries}
    (whole : ∀ item ∈ items, holds item) (mapping : holds (.mapping entries))
    (gives : Value.putItems index items entries = .ok more) : holds (.mapping more) := by
  induction items generalizing index entries with
  | nil =>
    cases gives
    exact mapping
  | cons item rest ih =>
    rw [List.forall_mem_cons] at whole
    simp only [Value.putItems, bind_eq_ok_iff] at gives
    obtain ⟨pair, entered, between, inserts, gives⟩ := gives
    obtain ⟨ofKey, ofValue⟩ := closed.entryOf whole.1 entered
    exact ih whole.2 (closed.insert mapping ofKey ofValue inserts) gives

theorem entries {tags : Entries} (whole : holds value) (gives : value.entries = .ok tags) :
    holds (.mapping tags) := by
  cases value with
  | mapping own =>
    cases gives
    exact whole
  | null | bool | int | float | text | list =>
    obtain ⟨items, held, gives⟩ := bind_eq_ok_iff.1 gives
    exact closed.putItems (closed.items whole held) closed.noEntries gives

theorem annotationItems {notes : List Value} (whole : holds value)
    (gives : value.annotationItems = .ok notes) : holds (.list notes) := by
  rw [closed.list_iff]
  unfold Value.annotationItems at gives
  split at gives
  · exact closed.items whole gives
  · cases gives
    exact nofun

theorem tagEntries {tags : Entries} (whole : holds value) (gives : value.tagEntries = .ok tags) :
    holds (.mapping tags) := by
  unfold Value.tagEntries at gives
  split at gives
  · exact closed.entries whole gives
  · cases gives
    exact closed.noEntries

/-! ### Putting something in -/

theorem append {notes : List Value} (whole : holds (.list notes)) (ofItem : holds item) :
    holds (.list (notes ++ [item])) := by
  rw [closed.list_iff] at whole ⊢
  exact List.forall_mem_append.2 ⟨whole, List.forall_mem_singleton.2 ofItem⟩

theorem appended (whole : holds value) (ofItem : holds item)
    (appends : value.append item = .ok after) : holds after := by
  unfold Value.append at appends
  split at appends
  · cases appends
    exact closed.append whole ofItem
  · cases appends

theorem putItem (whole : holds value) (ofKey : holds key) (ofItem : holds item)
    (puts : value.putItem key item = .ok after) : holds after := by
  unfold Value.putItem at puts
  split at puts
  · next own =>
    cases inserts : Entries.insert own key item with
    | error fault =>
      rw [inserts] at puts
      cases puts
    | ok more =>
      rw [inserts] at puts
      cases puts
      exact closed.insert whole ofKey ofItem inserts
  · next own =>
    obtain ⟨place, _, set⟩ := bind_eq_ok_iff.1 puts
    cases set
    rw [closed.list_iff] at whole ⊢
    intro member among
    rcases List.mem_or_eq_of_mem_set among with present | rfl
    · exact whole member present
    · exact ofItem
  · cases puts
  · cases puts

end Value.Closed

/-- What holds of all values under their names, and of another value, holds of all values after that
one is put under some name. -/
theorem forall_mem_putWith {β : Type} {holds : β → Prop} {pairs : List (String × β)} {name : String}
    {value : β} (before : ∀ pair ∈ pairs, holds pair.2) (put : holds value) :
    ∀ pair ∈ putWith (· == ·) pairs name value, holds pair.2 := by
  induction pairs with
  | nil => exact List.forall_mem_singleton.2 put
  | cons first rest ih =>
    rw [List.forall_mem_cons] at before
    rw [putWith]
    split
    · exact List.forall_mem_cons.2 ⟨put, before.2⟩
    · exact List.forall_mem_cons.2 ⟨before.1, ih before.2⟩

/-- What holds of all arguments of a call, of all fallbacks and of the absent value holds of
whatever a parameter is bound to. -/
theorem Signature.holds_of_bind {holds : Value → Prop} {signature : Signature}
    {arguments : List Value} {named : List (String × Value)} {bound : String → Value}
    (absent : holds .null)
    (fallbacks : ∀ parameter ∈ signature.parameters, ∀ value ∈ parameter.fallback, holds value)
    (placed : ∀ value ∈ arguments, holds value) (given : ∀ pair ∈ named, holds pair.2)
    (binds : signature.bind arguments named = .ok bound) (name : String) : holds (bound name) := by
  simp only [bind] at binds
  split at binds
  · cases binds
  · cases binds
    dsimp only
    split
    · next value found =>
      rcases List.mem_append.1 (mem_of_lookup found) with positional | other
      · exact placed value (List.of_mem_zip positional).2
      · exact given (name, value) other
    · cases reached : (signature.parameters.find? (·.name == name)).bind Parameter.fallback with
      | none => exact absent
      | some value =>
        obtain ⟨parameter, found, fallback⟩ := Option.bind_eq_some_iff.1 reached
        exact fallbacks parameter (List.mem_of_find?_eq_some found) value fallback

/-! ### Members of drafts -/

/-- A property holds of all values among some members. -/
def MembersHold (holds : Value → Prop) (members : List (String × Value)) : Prop :=
  ∀ member ∈ members, holds member.2

/-- A property holds of all that an edit hands over. -/
def Edit.Holds (holds : Value → Prop) : Edit → Prop
  | .set _ value => holds value
  | .annotate note => holds note
  | .addTag key value => holds key ∧ holds value
  | .clear => True

/-- The members of a draft are its fields, its annotations and its tags. -/
theorem Draft.membersHold_iff {holds : Value → Prop} {draft : Draft} :
    MembersHold holds draft.members ↔
      (∀ field, holds (draft.get field)) ∧ holds (.list draft.annotations) ∧
        holds (.mapping draft.tags) := by
  simp only [MembersHold, members, List.forall_mem_map]
  constructor
  · intro all
    exact ⟨fun field => all (.scalar field) (DraftPart.mem_all _),
      all .annotations (DraftPart.mem_all _), all .tags (DraftPart.mem_all _)⟩
  · rintro ⟨fields, annotations, tags⟩ part _
    cases part with
    | scalar field => exact fields field
    | annotations => exact annotations
    | tags => exact tags

section Members

variable {holds : Value → Prop} (closed : Value.Closed holds) {edit : Edit}
  {arguments : Except Fault (List Value)}

include closed

namespace Draft

variable {draft after : Draft}

theorem holds_empty : MembersHold holds Draft.empty.members := by
  rw [membersHold_iff]
  refine ⟨fun field => ?_, closed.list_iff.2 nofun, closed.noEntries⟩
  cases field <;> exact closed.null

theorem holds_apply (all : MembersHold holds draft.members) (given : edit.Holds holds)
    (applies : draft.apply edit = .ok after) : MembersHold holds after.members := by
  obtain ⟨fields, annotations, tags⟩ := membersHold_iff.1 all
  cases edit with
  | set field value =>
    cases applies
    have sameNotes : (draft.set field value).annotations = draft.annotations := by
      cases field <;> rfl
    have sameTags : (draft.set field value).tags = draft.tags := by cases field <;> rfl
    refine membersHold_iff.2 ⟨fun other => ?_, sameNotes ▸ annotations, sameTags ▸ tags⟩
    rw [get_set]
    split
    · exact given
    · exact fields other
  | annotate note =>
    cases applies
    exact membersHold_iff.2 ⟨fields, closed.append annotations given, tags⟩
  | addTag key value =>
    rw [apply] at applies
    cases inserts : draft.tags.insert key value with
    | error fault =>
      rw [inserts] at applies
      cases applies
    | ok more =>
      rw [inserts] at applies
      cases applies
      have entered := closed.insert tags given.1 given.2 inserts
      exact membersHold_iff.2 ⟨fields, annotations, entered⟩
  | clear =>
    cases applies
    exact holds_empty closed

end Draft

/-! ### Members that were assigned one by one -/

namespace OpenedDraft

variable {draft after : OpenedDraft} {name : String} {value : Value}

omit closed in
theorem holds_put (all : MembersHold holds draft.members) (given : holds value) :
    MembersHold holds (draft.put name value).members :=
  forall_mem_putWith all given

omit closed in
theorem holds_read (all : MembersHold holds draft.members) (reads : draft.read name = .ok value) :
    holds value := by
  unfold read at reads
  split at reads
  · next found =>
    cases reads
    exact all _ (mem_of_lookup found)
  · cases reads

theorem holds_ofEntries {entries : Entries} (mapping : holds (.mapping entries)) :
    MembersHold holds (ofEntries entries).members := by
  intro member listed
  obtain ⟨entry, among, named⟩ := List.mem_filterMap.1 listed
  obtain ⟨_, _, rfl⟩ := Option.map_eq_some_iff.1 named
  exact (closed.entry mapping entry among).2

theorem holds_assign (all : MembersHold holds draft.members) (given : holds value)
    (assigns : draft.assign name value = .ok after) : MembersHold holds after.members := by
  unfold assign at assigns
  split at assigns
  · cases assigns
  · cases assigns
    exact holds_ofEntries closed given
  · cases assigns
    exact holds_put all given

omit closed in
theorem holds_delete (all : MembersHold holds draft.members)
    (deletes : draft.delete name = .ok after) : MembersHold holds after.members := by
  unfold delete at deletes
  split at deletes
  · cases deletes
  · cases deletes
    exact nofun
  · obtain ⟨_, _, left⟩ := bind_eq_ok_iff.1 deletes
    cases left
    exact fun member listed => all member (List.mem_filter.1 listed).1

theorem holds_clear (all : MembersHold holds draft.members) :
    MembersHold holds draft.clear.members := by
  have parts : ∀ part, holds (Draft.empty.part part) := by
    intro part
    exact Draft.holds_empty closed _ (List.mem_map_of_mem (DraftPart.mem_all part))
  unfold clear
  induction DraftPart.all generalizing draft with
  | nil => exact all
  | cons part rest ih => exact ih (holds_put all (parts part))

theorem holds_apply (all : MembersHold holds draft.members) (given : edit.Holds holds)
    (applies : draft.apply edit = .ok after) : MembersHold holds after.members := by
  cases edit with
  | set field value =>
    cases applies
    exact holds_put all given
  | annotate note =>
    simp only [apply, bind_eq_ok_iff] at applies
    obtain ⟨notes, reads, more, appends, put⟩ := applies
    cases put
    exact holds_put all (closed.appended (holds_read all reads) given appends)
  | addTag key value =>
    simp only [apply, bind_eq_ok_iff] at applies
    obtain ⟨tags, reads, more, puts, put⟩ := applies
    cases put
    exact holds_put all (closed.putItem (holds_read all reads) given.1 given.2 puts)
  | clear =>
    cases applies
    exact holds_clear closed all

/-- What holds of all members holds of all parts that a build can read. -/
theorem holds_shape (all : MembersHold holds draft.members) :
    MembersHold holds draft.shape.members := by
  refine Draft.membersHold_iff.2 ⟨fun field => ?_, ?_, ?_⟩
  · have part : holds (draft.fieldOr field) := by
      unfold fieldOr
      cases found : draft.members.lookup (DraftPart.scalar field).name with
      | none => exact closed.null
      | some value => exact all _ (mem_of_lookup found)
    cases field <;> exact part
  · show holds (.list (draft.annotations.toOption.getD []))
    cases read : draft.annotations with
    | error fault => exact closed.list_iff.2 nofun
    | ok notes =>
      obtain ⟨value, held, gives⟩ := bind_eq_ok_iff.1 read
      exact closed.list_iff.2 (closed.items (holds_read all held) gives)
  · show holds (.mapping (draft.tags.toOption.getD []))
    cases read : draft.tags with
    | error fault => exact closed.noEntries
    | ok tags =>
      obtain ⟨value, held, gives⟩ := bind_eq_ok_iff.1 read
      exact closed.entries (holds_read all held) gives

end OpenedDraft

/-! ### Operations that are called by name -/

theorem DraftOperation.holds_of_call {operation : DraftOperation} {values : List Value}
    (given : ∀ value ∈ values, holds value) (calls : operation.call values = .ok (.edit edit)) :
    edit.Holds holds := by
  simp only [call, bind_eq_ok_iff, mapError_eq_ok_iff] at calls
  obtain ⟨bound, binds, made⟩ := calls
  have reached : ∀ name, holds (bound name) := by
    intro name
    apply Signature.holds_of_bind closed.null _ _ (List.forall_mem_nil _) binds
    · cases operation <;>
        simp [signature, parameters, Signature.parameters, Parameter.required, closed.null]
    · exact List.forall_mem_cons.2 ⟨closed.null, given⟩
  cases operation with
  | set field =>
    cases made
    exact reached field.name
  | annotate =>
    cases made
    exact reached "annotation"
  | addTag =>
    cases made
    exact ⟨reached "key", reached "value"⟩
  | clear =>
    cases made
    trivial
  | build | restart => cases made

/-- An edit that a call asks for hands over nothing but what was given. -/
theorem DraftCall.holds_of_resolve {members : List (String × Value)} {operation : String}
    (given : ∀ values, arguments = .ok values → ∀ value ∈ values, holds value)
    (resolves : resolve members operation arguments = .ok (.edit edit)) : edit.Holds holds := by
  unfold resolve at resolves
  split at resolves
  · obtain ⟨_, _, refused⟩ := bind_eq_ok_iff.1 resolves
    cases refused
  · obtain ⟨values, handed, calls⟩ := bind_eq_ok_iff.1 resolves
    exact DraftOperation.holds_of_call closed (given values handed) calls
  · cases resolves

theorem Draft.holds_invoke {draft : Draft} {surroundings : Surroundings} {operation : String}
    (all : MembersHold holds draft.members)
    (given : ∀ values, arguments = .ok values → ∀ value ∈ values, holds value) :
    MembersHold holds (draft.invoke surroundings operation arguments).1.members := by
  unfold invoke
  split
  · next call resolves =>
    cases call with
    | edit edit =>
      simp only [perform]
      split
      · next after applies =>
        exact holds_apply closed all (DraftCall.holds_of_resolve closed given resolves) applies
      · exact all
    | build => exact all
    | restart source => exact holds_empty closed
  · exact all

theorem OpenedDraft.holds_invoke {draft : OpenedDraft} {surroundings : Surroundings}
    {operation : String} (all : MembersHold holds draft.members)
    (given : ∀ values, arguments = .ok values → ∀ value ∈ values, holds value) :
    MembersHold holds (draft.invoke surroundings operation arguments).1.members := by
  unfold invoke
  split
  · next call resolves =>
    cases call with
    | edit edit =>
      simp only [perform]
      split
      · next after applies =>
        exact holds_apply closed all (DraftCall.holds_of_resolve closed given resolves) applies
      · exact all
    | build => exact all
    | restart source =>
      simp only [perform]
      split
      · exact all
      · exact holds_clear closed all
  · exact all

end Members

end TraceFilter
