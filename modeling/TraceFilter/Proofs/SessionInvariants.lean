/-
Module: TraceFilter.Proofs.SessionInvariants
Purpose: What a session keeps of whatever is handed over to it: a property that is a matter of what
  values are made of, and one that all requests have that come about from such values.
Main exports: Session.Invariant, Request.Holds, Draft.holds_of_buildWhere, Stored.Holds,
  Register.Holds, Step.values, Session.Holds, Session.Invariant.outcome, Session.Invariant.step,
  Session.Invariant.run
-/
import TraceFilter.Proofs.MemberInvariants
import TraceFilter.Proofs.SessionFrames

namespace TraceFilter

/-! ### What is held of a request -/

/-- A property holds of all fields of a request. -/
def Request.Holds (holds : Value → Prop) (request : Request) : Prop :=
  ∀ field ∈ request.fields, holds field.2

section Requests

variable {holds : Value → Prop} (closed : Value.Closed holds) {request : Request}

include closed

/-- A request that can be written takes over what holds of the collections and durations that it is
made of. -/
theorem Candidate.Becomes.request_holds {candidate : Candidate}
    (becomes : candidate.Becomes request)
    (writable : request.isWritable = true) (notes : holds (.list candidate.annotations))
    (tags : holds (.mapping candidate.tags)) (least : holds candidate.minDuration)
    (most : holds candidate.maxDuration) : request.Holds holds := by
  rw [Request.isWritable, fieldsWritable_iff] at writable
  simp only [Request.fields, List.forall_mem_cons, Value.isWritable_int] at writable
  obtain ⟨_, _, _, _, _, _, ends, back, cap, _⟩ := writable
  simp only [Request.Holds, Request.fields, List.forall_mem_cons, becomes.annotations,
    becomes.tags, becomes.minDuration, becomes.maxDuration]
  exact ⟨closed.text _, closed.ofText? _, notes, tags, least, most, closed.int ends,
    closed.int back, closed.int cap, List.forall_mem_nil _⟩

theorem Request.holds_of_ofFields {given : List (String × Value)}
    (all : ∀ field ∈ given, holds field.2) (gives : Request.ofFields given = .ok request)
    (writable : request.isWritable = true) : request.Holds holds := by
  obtain ⟨candidate, proposes, accepted⟩ := bind_eq_ok_iff.1 gives
  obtain ⟨_, becomes⟩ := Candidate.accept_eq_ok_iff.1 accepted
  simp only [Candidate.ofFields, bind_eq_ok_iff, mapError_eq_ok_iff] at proposes
  obtain ⟨field, binds, annotations, noted, tags, tagged, proposed⟩ := proposes
  cases proposed
  have reached : ∀ name, holds (field name) := by
    intro name
    apply Signature.holds_of_bind closed.null _ _ all binds
    · simp [fieldSignature, Signature.parameters, Parameter.required, closed.null,
        closed.noEntries, closed.list_iff]
    · exact List.forall_mem_singleton.2 closed.null
  exact becomes.request_holds closed writable (closed.annotationItems (reached _) noted)
    (closed.tagEntries (reached _) tagged) (reached _) (reached _)

theorem Draft.holds_of_buildWhere {draft : Draft} {readable : DraftPart → Except Fault Unit}
    {surroundings : Surroundings} (all : MembersHold holds draft.members)
    (gives : (draft.buildWhere readable surroundings).result = .ok request) :
    request.Holds holds := by
  obtain ⟨fields, notes, tags⟩ := membersHold_iff.1 all
  obtain ⟨writable, _, _, _, _, accepted⟩ := accepted_of_buildWhere gives
  obtain ⟨_, becomes⟩ := Candidate.accept_eq_ok_iff.1 accepted
  exact becomes.request_holds closed writable notes tags (fields .minDuration) (fields .maxDuration)

omit closed in
/-- A draft that starts from a request takes over what holds of its fields. -/
theorem Draft.holds_ofRequest (all : request.Holds holds) :
    MembersHold holds (Draft.ofRequest request).members := by
  simp only [Request.Holds, Request.fields, List.forall_mem_cons] at all
  obtain ⟨service, span, notes, tags, least, most, ends, back, cap, _⟩ := all
  refine membersHold_iff.2 ⟨fun field => ?_, notes, tags⟩
  cases field with
  | serviceName => exact service
  | spanName => exact span
  | minDuration => exact least
  | maxDuration => exact most
  | endTs => exact ends
  | lookback => exact back
  | limit => exact cap

end Requests

/-- A property of values and one of requests are kept by sessions if the first is a matter of what
values are made of, and the second comes with every request that is made or built of values that
have the first. -/
structure Session.Invariant (holds : Value → Prop) (fits : Request → Prop) : Prop
    extends Value.Closed holds where
  made : ∀ {given request}, (∀ field ∈ given, holds field.2) →
    Request.ofFields given = .ok request → fits request
  built : ∀ {draft : Draft} {surroundings request}, MembersHold holds draft.members →
    (draft.build surroundings).result = .ok request → fits request
  builtOpened : ∀ {draft : OpenedDraft} {surroundings request}, MembersHold holds draft.members →
    (draft.build surroundings).result = .ok request → fits request

/-! ### What is held in registers -/

section Registers

variable (holds : Value → Prop) (fits : Request → Prop)

/-- A property of values holds of all parts of what is held, and one of requests of what is held as
one. -/
def Stored.Holds : Stored → Prop
  | .request asked => fits asked ∧ asked.Holds holds
  | .draft sketch => MembersHold holds sketch.members
  | .opened sketch => MembersHold holds sketch.members
  | .window bounds => ∀ field ∈ bounds.fields, holds field.2
  | .settings defaults => holds (.int defaults.defaultLimit)

/-- The properties hold of what a register holds, and of what was assigned to it from outside. -/
structure Register.Holds (register : Register) : Prop where
  held : register.held.Holds holds fits
  assigned : MembersHold holds register.assigned

/-- The properties hold of all registers of a session. -/
def Session.Holds (session : Session) : Prop :=
  ∀ name register, session.fetch name = .ok register → register.Holds holds fits

end Registers

variable {holds : Value → Prop} {fits : Request → Prop}

theorem Stored.holds_of_asRequest {held : Stored} {member : String} {request : Request}
    (all : held.Holds holds fits) (asked : held.asRequest member = .ok request) :
    fits request ∧ request.Holds holds := by
  cases held with
  | request own =>
    cases asked
    exact all
  | draft | opened | window | settings => cases asked

/-! ### What is shown can be written -/

section Shown

variable {view : View}

theorem Request.isWritable_of_shown {asked : Request}
    (shown : (Stored.request asked).view = .ok view) : asked.isWritable = true := by
  obtain ⟨text, written, _⟩ := map_eq_ok_iff.1 shown
  rw [plain_eq] at written
  split at written
  · assumption
  · cases written

variable (closed : Value.Closed holds)

include closed

theorem Value.Closed.ofInt? {bound? : Option Int}
    (writable : (Value.ofInt? bound?).isWritable = true) : holds (.ofInt? bound?) := by
  cases bound? with
  | none => exact closed.null
  | some number => exact closed.int writable

theorem Window.holds_of_shown {bounds : Window}
    (shown : (Stored.window bounds).view = .ok view) : ∀ field ∈ bounds.fields, holds field.2 := by
  obtain ⟨text, written, _⟩ := map_eq_ok_iff.1 shown
  rw [plain, plainFields_eq] at written
  split at written
  · next writable =>
    rw [fieldsWritable_iff] at writable
    simp only [fields, List.forall_mem_cons, Value.isWritable_int] at writable ⊢
    obtain ⟨starts, ends, least, most, _⟩ := writable
    exact ⟨closed.int starts, closed.int ends, closed.ofInt? least, closed.ofInt? most, nofun⟩
  · cases written

theorem Settings.holds_of_shown {defaults : Settings}
    (shown : (Stored.settings defaults).view = .ok view) : holds (.int defaults.defaultLimit) := by
  obtain ⟨text, written, _⟩ := map_eq_ok_iff.1 shown
  simp only [plain, displayFields, bind_eq_ok_iff] at written
  obtain ⟨_, ⟨limit, displayed, _⟩, _⟩ := written
  unfold Value.display Value.ifWritable at displayed
  split at displayed
  · next writable => exact closed.int writable
  · cases displayed

end Shown

namespace Session.Invariant

variable (invariant : Invariant holds fits) {register after : Register}

include invariant

/-! ### Members of registers -/

omit invariant in
theorem of_memberAmong {members : List (String × Value)} {name : String} {value : Value}
    (all : MembersHold holds members)
    (found : Draft.memberAmong? members name = some (.value value)) : holds value := by
  unfold Draft.memberAmong? at found
  split at found
  · next listed =>
    cases found
    exact all _ (mem_of_lookup listed)
  · obtain ⟨_, _, operation⟩ := Option.map_eq_some_iff.1 found
    cases operation

omit invariant in
theorem of_window_member {bounds : Window} {name : String} {value : Value}
    (all : ∀ field ∈ bounds.fields, holds field.2)
    (found : bounds.member? name = some (.value value)) : holds value := by
  simp only [Window.fields, List.forall_mem_cons] at all
  obtain ⟨starts, ends, least, most, _⟩ := all
  unfold Window.member? at found
  split at found <;> cases found
  · exact starts
  · exact ends
  · exact least
  · exact most

omit invariant in
/-- What holds of a register that holds no request holds of every value that is read of it. -/
theorem of_member {name : String} {value : Value} (all : register.Holds holds fits)
    (other : ∀ request, register.held ≠ .request request)
    (found : register.member? name = some (.value value)) : holds value := by
  obtain ⟨held, assigned⟩ := all
  unfold Register.member? at found
  split at found
  · next listed =>
    cases found
    exact assigned _ (mem_of_lookup listed)
  · generalize register.held = stored at held other found
    cases stored with
    | request request => exact absurd rfl (other request)
    | draft draft => exact of_memberAmong held found
    | opened draft => exact of_memberAmong held found
    | window window => exact of_window_member held found
    | settings settings =>
      change settings.member? name = _ at found
      unfold Settings.member? at found
      split at found <;> cases found
      exact held

omit invariant in
theorem member_of_demand {name : String} {member : Member}
    (demanded : register.demand name = .ok member) : register.member? name = some member := by
  unfold Register.demand at demanded
  split at demanded
  · next found =>
    cases demanded
    exact found
  · cases demanded

omit invariant in
theorem of_valueOf {name : String} {value : Value} (all : register.Holds holds fits)
    (other : ∀ request, register.held ≠ .request request)
    (reads : register.valueOf name = .ok value) : holds value := by
  obtain ⟨member, demanded, reads⟩ := bind_eq_ok_iff.1 reads
  split at reads
  · cases reads
    exact of_member all other (member_of_demand demanded)
  · cases reads

/-! ### What becomes of a register -/

theorem origin {draft : Draft} (all : register.Holds holds fits)
    (gives : register.origin = .ok draft) : MembersHold holds draft.members := by
  unfold Register.origin at gives
  split at gives
  · next request own =>
    cases gives
    have held := all.held
    rw [own] at held
    exact Draft.holds_ofRequest held.2
  · next other =>
    have reached : ∀ name value, register.valueOf name = .ok value → holds value :=
      fun name value => of_valueOf all other
    simp only [bind_eq_ok_iff] at gives
    obtain ⟨_, _, _, _, listed, notesRead, notes, noted, mapped, tagsRead, tags, entered,
      serviceName, named, spanName, spanned, minDuration, least, maxDuration, most, endTs, ends,
      lookback, back, limit, limited, made⟩ := gives
    cases made
    refine Draft.membersHold_iff.2 ⟨fun field => ?_,
      invariant.list_iff.2 (invariant.items (reached _ _ notesRead) noted),
      invariant.entries (reached _ _ tagsRead) entered⟩
    cases field with
    | serviceName => exact reached _ _ named
    | spanName => exact reached _ _ spanned
    | minDuration => exact reached _ _ least
    | maxDuration => exact reached _ _ most
    | endTs => exact reached _ _ ends
    | lookback => exact reached _ _ back
    | limit => exact reached _ _ limited

theorem invoke {surroundings : Surroundings} {operation : String}
    {arguments : Except Fault (List Value)} (all : register.Holds holds fits)
    (given : ∀ values, arguments = .ok values → ∀ value ∈ values, holds value) :
    (register.invoke surroundings operation arguments).1.Holds holds fits := by
  obtain ⟨held, assigned⟩ := all
  unfold Register.invoke
  split
  · next draft own =>
    rw [own] at held
    exact ⟨Draft.holds_invoke invariant.toClosed held given, assigned⟩
  · next draft own =>
    rw [own] at held
    exact ⟨OpenedDraft.holds_invoke invariant.toClosed held given, assigned⟩
  · exact ⟨held, assigned⟩

omit invariant in
theorem opening {opened : Except Fault OpenedDraft} (all : register.Holds holds fits)
    (drafted : ∀ draft, opened = .ok draft → MembersHold holds draft.members)
    (opens : register.opening opened = .ok after) : after.Holds holds fits := by
  cases opened with
  | error fault => cases opens
  | ok draft =>
    cases opens
    exact ⟨drafted draft rfl, all.assigned⟩

theorem assign {name : String} {value : Value} (all : register.Holds holds fits)
    (given : holds value) (assigns : register.assign name value = .ok after) :
    after.Holds holds fits := by
  have held := all.held
  unfold Register.assign at assigns
  split at assigns
  · cases assigns
  · next draft own =>
    rw [own] at held
    exact opening all (fun _ => OpenedDraft.holds_assign invariant.toClosed held given) assigns
  · next draft own =>
    rw [own] at held
    exact opening all (fun _ => OpenedDraft.holds_assign invariant.toClosed held given) assigns
  · unfold Register.assignPrivate at assigns
    split at assigns
    · cases assigns
    · split at assigns
      · cases assigns
      · cases assigns
        exact ⟨held, forall_mem_putWith all.assigned given⟩

omit invariant in
theorem delete {name : String} (all : register.Holds holds fits)
    (deletes : register.delete name = .ok after) : after.Holds holds fits := by
  have held := all.held
  unfold Register.delete at deletes
  split at deletes
  · cases deletes
  · next draft own =>
    rw [own] at held
    exact opening all (fun _ => OpenedDraft.holds_delete held) deletes
  · next draft own =>
    rw [own] at held
    exact opening all (fun _ => OpenedDraft.holds_delete held) deletes
  · cases deletes

theorem putTag {key : Except Fault Value} {value : Value} (all : register.Holds holds fits)
    (ofKey : ∀ known, key = .ok known → holds known) (ofValue : holds value)
    (puts : register.putTag key value = .ok after) : after.Holds holds fits := by
  simp only [Register.putTag, bind_eq_ok_iff] at puts
  obtain ⟨member, demanded, known, given, puts⟩ := puts
  split at puts
  · next tags draft own =>
    have tagsHold : holds tags := by
      refine of_member all (fun request => ?_) (member_of_demand demanded)
      rw [own]
      exact Stored.noConfusion
    have held := all.held
    rw [own] at held
    refine opening all (fun opened put => ?_) puts
    obtain ⟨more, entered, made⟩ := bind_eq_ok_iff.1 put
    cases made
    have more := invariant.putItem tagsHold (ofKey known given) ofValue entered
    exact OpenedDraft.holds_put held more
  · cases puts

end Session.Invariant

/-! ### Steps of a session -/

/-- The values that a step hands over to what the session keeps. -/
def Step.values : Step → List Value
  | .call _ _ arguments => arguments.toOption.getD []
  | .newRequest fields _ => (fields.toOption.getD []).map Prod.snd
  | .assign _ _ value => value.toOption.toList
  | .putTag _ key value => key.toOption.toList ++ value.toOption.toList
  | _ => []

/-- What a step makes is shown and held as it was made, in a register to which nothing else is
assigned. -/
theorem Outcome.holds_making {target name : String} {made : Observed Stored} {register : Register}
    (all : ∀ held view, made.result = .ok held → held.view = .ok view → held.Holds holds fits)
    (fills : (making target made).filled? = some (name, register)) :
    register.Holds holds fits := by
  simp only [making, Observed.result_bind, Option.map_eq_some_iff] at fills
  obtain ⟨⟨held, view⟩, shown, same⟩ := fills
  cases same
  simp only [toOption_eq_some_iff, bind_eq_ok_iff] at shown
  obtain ⟨_, gives, _, views, shows⟩ := shown
  cases shows
  exact ⟨all held _ gives views, nofun⟩

namespace Session

variable {session : Session}

/-- What is fetched for an operation is what the register holds. -/
theorem held_of_fetchFor {name operation : String} {held : Stored}
    (all : session.Holds holds fits) (fetched : session.fetchFor name operation = .ok held) :
    held.Holds holds fits := by
  obtain ⟨register, found, prepared⟩ := bind_eq_ok_iff.1 fetched
  simp only [Register.prepare, bind_eq_ok_iff] at prepared
  obtain ⟨member, _, given, ⟨rfl⟩, called⟩ := prepared
  split at called
  · cases called
    exact (all name register found).held
  · cases called

theorem holds_start (surroundings : Surroundings) : (start surroundings).Holds holds fits := nofun

namespace Invariant

variable (invariant : Invariant holds fits)

include invariant

/-! What each kind of step fills a register with. -/

section Filled

variable {source target operation name : String} {register : Register}
  (all : session.Holds holds fits)

include all

theorem of_call {arguments : Except Fault (List Value)}
    (given : ∀ values, arguments = .ok values → ∀ value ∈ values, holds value)
    (fills : (session.outcome (.call source operation arguments)).filled? = some (name, register)) :
    register.Holds holds fits := by
  cases fetched : session.fetch source with
  | ok called =>
    simp only [Session.outcome, fetched] at fills
    cases fills
    exact invariant.invoke (all _ _ fetched) given
  | error fault =>
    simp only [Session.outcome, fetched] at fills
    cases fills

theorem of_build
    (fills : (session.outcome (.build source target)).filled? = some (name, register)) :
    register.Holds holds fits := by
  refine Outcome.holds_making (fun held view made shown => ?_) fills
  simp only [Observed.result_bind, Observed.result_ofExcept, bind_eq_ok_iff] at made
  obtain ⟨stored, fetched, made⟩ := made
  have source := held_of_fetchFor all fetched
  split at made
  · simp only [Observed.result_bind, bind_eq_ok_iff] at made
    obtain ⟨request, gives, ⟨rfl⟩⟩ := made
    exact ⟨invariant.built source gives,
      Draft.holds_of_buildWhere invariant.toClosed source gives⟩
  · simp only [Observed.result_bind, bind_eq_ok_iff] at made
    obtain ⟨request, gives, ⟨rfl⟩⟩ := made
    have shape := OpenedDraft.holds_shape invariant.toClosed source
    exact ⟨invariant.builtOpened source gives,
      Draft.holds_of_buildWhere invariant.toClosed shape gives⟩
  · cases made

omit all in
theorem of_newRequest {fields : Except Fault (List (String × Value))}
    (given : ∀ values, fields = .ok values → ∀ field ∈ values, holds field.2)
    (fills : (session.outcome (.newRequest fields target)).filled? = some (name, register)) :
    register.Holds holds fits := by
  refine Outcome.holds_making (fun held view made shown => ?_) fills
  simp only [Observed.result_ofExcept, bind_eq_ok_iff] at made
  obtain ⟨values, handed, request, gives, ⟨rfl⟩⟩ := made
  have writable : request.isWritable = true := Request.isWritable_of_shown shown
  exact ⟨invariant.made (given values handed) gives,
    Request.holds_of_ofFields invariant.toClosed (given values handed) gives writable⟩

theorem of_putTag {key value : Except Fault Value}
    (ofKey : ∀ known, key = .ok known → holds known)
    (ofValue : ∀ put, value = .ok put → holds put)
    (fills : (session.outcome (.putTag source key value)).filled? = some (name, register)) :
    register.Holds holds fits := by
  have changes := (Outcome.of_filled_changing fills).2
  simp only [bind_eq_ok_iff] at changes
  obtain ⟨put, handed, before, fetched, puts⟩ := changes
  exact invariant.putTag (all _ _ fetched) ofKey (ofValue put handed) puts

end Filled

/-- Whatever a step fills a register with has the properties, if all that it hands over has. -/
theorem outcome {next : Step} {name : String} {register : Register}
    (all : session.Holds holds fits) (given : ∀ value ∈ next.values, holds value)
    (fills : (session.outcome next).filled? = some (name, register)) :
    register.Holds holds fits := by
  cases next with
  | newDraft target =>
    refine Outcome.holds_making (fun held view made shown => ?_) fills
    cases made
    exact Draft.holds_empty invariant.toClosed
  | draftFrom source target =>
    refine Outcome.holds_making (fun held view made shown => ?_) fills
    simp only [Observed.result_ofExcept, bind_eq_ok_iff] at made
    obtain ⟨origin, fetched, draft, gives, ⟨rfl⟩⟩ := made
    exact invariant.origin (all _ _ fetched) gives
  | toDraft source target =>
    refine Outcome.holds_making (fun held view made shown => ?_) fills
    simp only [Observed.result_ofExcept, bind_eq_ok_iff] at made
    obtain ⟨stored, fetched, request, asked, ⟨rfl⟩⟩ := made
    exact Draft.holds_ofRequest (Stored.holds_of_asRequest (held_of_fetchFor all fetched) asked).2
  | call source operation arguments =>
    refine invariant.of_call all ?_ fills
    rintro values rfl
    exact given
  | build source target => exact invariant.of_build all fills
  | newRequest fields target =>
    refine invariant.of_newRequest ?_ fills
    rintro values rfl field member
    exact given field.2 (List.mem_map_of_mem member)
  -- Settings and windows hold nothing but integers, and those are shown.
  | newSettings fields target =>
    refine Outcome.holds_making (fun held view made shown => ?_) fills
    simp only [Observed.result_ofExcept, bind_eq_ok_iff] at made
    obtain ⟨_, _, settings, _, ⟨rfl⟩⟩ := made
    exact Settings.holds_of_shown invariant.toClosed shown
  | newWindow fields target =>
    refine Outcome.holds_making (fun held view made shown => ?_) fills
    simp only [Observed.result_ofExcept, bind_eq_ok_iff] at made
    obtain ⟨_, _, window, _, ⟨rfl⟩⟩ := made
    exact Window.holds_of_shown invariant.toClosed shown
  | loadSettings target =>
    refine Outcome.holds_making (fun held view made shown => ?_) fills
    simp only [Observed.result_bind, bind_eq_ok_iff] at made
    obtain ⟨settings, _, ⟨rfl⟩⟩ := made
    exact Settings.holds_of_shown invariant.toClosed shown
  | windowOf source target =>
    refine Outcome.holds_making (fun held view made shown => ?_) fills
    simp only [Observed.result_ofExcept, bind_eq_ok_iff] at made
    obtain ⟨_, _, window, _, ⟨rfl⟩⟩ := made
    exact Window.holds_of_shown invariant.toClosed shown
  | assign source member value =>
    have changes := (Outcome.of_filled_changing fills).2
    simp only [bind_eq_ok_iff] at changes
    obtain ⟨before, fetched, put, handed, assigns⟩ := changes
    rw [handed] at given
    exact invariant.assign (all _ _ fetched) (given put List.mem_cons_self) assigns
  | delete source member =>
    have changes := (Outcome.of_filled_changing fills).2
    obtain ⟨before, fetched, deletes⟩ := bind_eq_ok_iff.1 changes
    exact delete (all _ _ fetched) deletes
  | putTag source key value =>
    obtain ⟨ofKey, ofValue⟩ := List.forall_mem_append.1 given
    refine invariant.of_putTag all ?_ ?_ fills
    · rintro known rfl
      exact ofKey known List.mem_cons_self
    · rintro put rfl
      exact ofValue put List.mem_cons_self
  | _ => cases fills

/-- A step keeps what holds of a session. -/
theorem step {next : Step} (all : session.Holds holds fits)
    (given : ∀ value ∈ next.values, holds value) : (session.step next).1.Holds holds fits := by
  intro name register fetched
  rw [fetch_step] at fetched
  split at fetched
  · next filled made fills =>
    split at fetched
    · cases fetched
      exact invariant.outcome all given fills
    · exact all name register fetched
  · exact all name register fetched

/-- Any steps do. -/
theorem run {steps : List Step} (all : session.Holds holds fits)
    (given : ∀ next ∈ steps, ∀ value ∈ next.values, holds value) :
    (session.run steps).1.Holds holds fits := by
  induction steps generalizing session with
  | nil => exact all
  | cons next rest ih =>
    rw [List.forall_mem_cons] at given
    exact ih (invariant.step all given.1) given.2

end Invariant

end Session

end TraceFilter
