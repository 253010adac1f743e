/-
Module: TraceFilter.Proofs.DraftRuns
Purpose: What a draft holds after any sequence of calls, read off the calls since it was last
  cleared: the last value of each field, all annotations, and each tag once.
Main exports: Entries.settled, Entries.settled_concat, Entries.WellKeyed.settled_eq,
  DraftCall.sinceClear, Draft.after, Draft.NormalForm, Draft.NormalForm.concat,
  Draft.normalForm_foldl
-/
import Mathlib.Data.List.DropRight
import TraceFilter.Draft.Call
import TraceFilter.Proofs.KeyedEntries

namespace TraceFilter

/-! ### Each key once, with its last value -/

namespace Entries

/-- The last value that some pairs give for a key, or another value if they give none. -/
def lastUnder (key otherwise : Value) (pairs : List (Value × Value)) : Value :=
  ((pairs.filter fun pair => key.same pair.1).map Prod.snd).getLastD otherwise

/-- What pairs come to when they are put into a mapping one after the other: each distinct key once,
where and as it came first, with the value that came last. -/
def settled : List (Value × Value) → Entries
  | [] => []
  | (key, value) :: rest =>
    (key, lastUnder key value rest) :: (settled rest).filter fun later => !key.same later.1

variable {entries : Entries} {key value other : Value}

theorem lastUnder_concat (pairs : List (Value × Value)) (otherwise : Value) :
    lastUnder other otherwise (pairs ++ [(key, value)]) =
      if other.same key then value else lastUnder other otherwise pairs := by
  unfold lastUnder
  rw [List.filter_append]
  cases same : other.same key <;> simp [same]

theorem put_cons (entry : Value × Value) (rest : Entries) (key value : Value) :
    put (entry :: rest) key value =
      if entry.1.same key then (entry.1, value) :: rest else entry :: rest.put key value := rfl

/-- What is put under a key cannot be told when that key is left out. -/
theorem filter_put_of_same (same : other.same key = true) :
    (entries.put key value).filter (fun entry => !other.same entry.1) =
      entries.filter fun entry => !other.same entry.1 := by
  induction entries with
  | nil => simp [put, putWith, same]
  | cons entry rest ih =>
    rw [put_cons]
    split
    · next here =>
      have left : other.same entry.1 = true := Value.same_trans same (Value.same_symm here)
      simp [left]
    · rw [List.filter_cons, List.filter_cons, ih]

theorem filter_put_of_apart (apart : other.same key = false) :
    (entries.put key value).filter (fun entry => !other.same entry.1) =
      put (entries.filter fun entry => !other.same entry.1) key value := by
  induction entries with
  | nil => simp [put, putWith, apart]
  | cons entry rest ih =>
    rw [put_cons]
    split
    · next here =>
      have kept : other.same entry.1 = false := by
        rw [Value.same_congr_right here]
        exact apart
      simp [kept, put_cons, here]
    · next elsewhere =>
      rw [List.filter_cons, List.filter_cons, ih]
      split
      · rw [put_cons, if_neg elsewhere]
      · rfl

/-- One more pair is put into what the pairs before it come to. -/
theorem settled_concat (pairs : List (Value × Value)) (key value : Value) :
    settled (pairs ++ [(key, value)]) = (settled pairs).put key value := by
  induction pairs with
  | nil => rfl
  | cons pair rest ih =>
    obtain ⟨first, old⟩ := pair
    rw [List.cons_append, settled, settled, ih, lastUnder_concat, put_cons]
    -- The added pair is either about the first key, or goes into what the rest comes to.
    split
    · next same => rw [filter_put_of_same same]
    · next apart => rw [filter_put_of_apart (Bool.eq_false_iff.2 apart)]

-- What is not a number is one key with itself, and another one than its like.
example : settled [(.float .notANumber 1, .text "a"), (.float .notANumber 1, .text "b"),
      (.float .notANumber 2, .text "c")] =
    [(.float .notANumber 1, .text "b"), (.float .notANumber 2, .text "c")] := rfl

/-- A mapping with distinct keys comes to itself. -/
theorem WellKeyed.settled_eq (keyed : entries.WellKeyed) : settled entries = entries := by
  induction entries with
  | nil => rfl
  | cons entry rest ih =>
    obtain ⟨_, apart, later⟩ := wellKeyed_cons_iff.1 keyed
    obtain ⟨key, value⟩ := entry
    have none : rest.filter (fun pair => key.same pair.1) = [] := by
      rw [List.filter_eq_nil_iff]
      intro pair member
      rw [apart pair member]
      exact Bool.false_ne_true
    have all : rest.filter (fun pair => !key.same pair.1) = rest := by
      rw [List.filter_eq_self]
      intro pair member
      rw [apart pair member]
      rfl
    rw [settled, ih later, all, lastUnder, none]
    rfl

end Entries

/-! ### Calls and what they add -/

namespace DraftCall

/-- Whether a call leaves an empty draft behind. -/
def clears : DraftCall → Bool
  | .edit .clear => true
  | .restart _ => true
  | _ => false

/-- The value to which a call sets a field. -/
def sets? (field : Scalar) : DraftCall → Option Value
  | .edit (.set other value) => if other = field then some value else none
  | _ => none

/-- The annotation that a call adds. -/
def note? : DraftCall → Option Value
  | .edit (.annotate note) => some note
  | _ => none

/-- The tag that a call adds, if its key can be one. -/
def tag? : DraftCall → Option (Value × Value)
  | .edit (.addTag key value) => if key.isHashable then some (key, value) else none
  | _ => none

/-- The calls after the last one that cleared the draft. -/
def sinceClear (calls : List DraftCall) : List DraftCall :=
  calls.rtakeWhile (!·.clears)

theorem sinceClear_concat (calls : List DraftCall) (call : DraftCall) :
    sinceClear (calls ++ [call]) = if call.clears then [] else sinceClear calls ++ [call] := by
  unfold sinceClear
  rw [List.rtakeWhile_concat]
  cases call.clears <;> rfl

end DraftCall

namespace Draft

/-- The draft after a call. A change that fails is not made, and a build changes nothing. -/
def after (draft : Draft) : DraftCall → Draft
  | .edit edit => (draft.apply edit).toOption.getD draft
  | .build => draft
  | .restart _ => .empty

theorem perform_eq_after (draft : Draft) (surroundings : Surroundings) (call : DraftCall) :
    (draft.perform surroundings call).1 = draft.after call := by
  cases call with
  | edit edit =>
    rw [perform, after]
    cases draft.apply edit <;> rfl
  | build => rfl
  | restart source => rfl

/-- What calls leave of the draft on which they are made: nothing, if one of them clears it. -/
def base (start : Draft) (calls : List DraftCall) : Draft :=
  if calls.any DraftCall.clears then .empty else start

theorem base_concat (start : Draft) (calls : List DraftCall) (call : DraftCall) :
    start.base (calls ++ [call]) = if call.clears then .empty else start.base calls := by
  unfold base
  rw [List.any_append, List.any_cons, List.any_nil, Bool.or_false]
  cases call.clears <;> simp

/-- A draft is in the normal form of some calls when each field has the value to which it was last
set, the annotations are all that were added in order, and the tags are those that were added, each
key once. Only the calls since the draft was last cleared count; what they do not touch is as in the
draft that they start from. -/
structure NormalForm (start : Draft) (calls : List DraftCall) (reached : Draft) : Prop where
  fields : ∀ field, reached.get field =
    ((DraftCall.sinceClear calls).filterMap (·.sets? field)).getLastD ((start.base calls).get field)
  annotations : reached.annotations =
    (start.base calls).annotations ++ (DraftCall.sinceClear calls).filterMap (·.note?)
  tags : reached.tags =
    Entries.settled ((start.base calls).tags ++ (DraftCall.sinceClear calls).filterMap (·.tag?))

section Calls

variable {start reached : Draft} {calls : List DraftCall} {call : DraftCall}

/-! ### What one call does -/

theorem after_of_clears (clears : call.clears = true) : reached.after call = .empty := by
  cases call with
  | edit edit =>
    cases edit with
    | clear => rfl
    | set | annotate | addTag => cases clears
  | build => cases clears
  | restart source => rfl

theorem get_after (keeps : call.clears = false) (field : Scalar) :
    (reached.after call).get field = (call.sets? field).getD (reached.get field) := by
  cases call with
  | edit edit =>
    cases edit with
    | set other value =>
      show (reached.set other value).get field = _
      rw [get_set, DraftCall.sets?]
      by_cases same : field = other
      · rw [if_pos same, if_pos same.symm, Option.getD_some]
      · rw [if_neg same, if_neg (Ne.symm same), Option.getD_none]
    | annotate note => cases field <;> rfl
    | addTag key value =>
      simp only [after, apply, Entries.insert]
      split <;> cases field <;> rfl
    | clear => cases keeps
  | build => rfl
  | restart source => cases keeps

theorem annotations_after (keeps : call.clears = false) :
    (reached.after call).annotations = reached.annotations ++ call.note?.toList := by
  cases call with
  | edit edit =>
    cases edit with
    | set field value =>
      show (reached.set field value).annotations = reached.annotations ++ []
      rw [List.append_nil]
      cases field <;> rfl
    | annotate note => rfl
    | addTag key value =>
      show _ = reached.annotations ++ []
      simp only [after, apply, Entries.insert, List.append_nil]
      split <;> rfl
    | clear => cases keeps
  | build => exact (List.append_nil _).symm
  | restart source => cases keeps

theorem tags_after (keeps : call.clears = false) : (reached.after call).tags =
    match call.tag? with
    | some tag => reached.tags.put tag.1 tag.2
    | none => reached.tags := by
  cases call with
  | edit edit =>
    cases edit with
    | set field value => cases field <;> rfl
    | annotate note => rfl
    | addTag key value =>
      simp only [after, apply, Entries.insert, DraftCall.tag?]
      cases key.isHashable <;> rfl
    | clear => cases keeps
  | build => rfl
  | restart source => cases keeps

/-! ### What a sequence of calls does -/

/-- No calls leave a draft with distinct tags in its own normal form. -/
theorem normalForm_nil (keyed : start.tags.WellKeyed) : start.NormalForm [] start where
  fields _ := rfl
  annotations := (List.append_nil start.annotations).symm
  tags := by
    show start.tags = Entries.settled (start.tags ++ [])
    rw [List.append_nil, keyed.settled_eq]

/-- One more call keeps the normal form. -/
theorem NormalForm.concat (normal : start.NormalForm calls reached) (call : DraftCall) :
    start.NormalForm (calls ++ [call]) (reached.after call) := by
  cases clears : call.clears with
  | true =>
    have since : DraftCall.sinceClear (calls ++ [call]) = [] := by
      rw [DraftCall.sinceClear_concat, if_pos clears]
    have base : start.base (calls ++ [call]) = .empty := by
      rw [base_concat, if_pos clears]
    rw [after_of_clears clears]
    constructor
    · intro field
      rw [since, base]
      rfl
    · rw [since, base]
      rfl
    · rw [since, base]
      rfl
  | false =>
    have since : DraftCall.sinceClear (calls ++ [call]) = DraftCall.sinceClear calls ++ [call] := by
      rw [DraftCall.sinceClear_concat, clears, if_neg Bool.false_ne_true]
    have base : start.base (calls ++ [call]) = start.base calls := by
      rw [base_concat, clears, if_neg Bool.false_ne_true]
    constructor
    · intro field
      rw [get_after clears, since, base, List.filterMap_append, normal.fields]
      cases set : call.sets? field <;> simp [set]
    · rw [annotations_after clears, since, base, List.filterMap_append, normal.annotations]
      cases noted : call.note? <;> simp [noted]
    · rw [tags_after clears, since, base, List.filterMap_append, normal.tags]
      cases tagged : call.tag? with
      | none => simp [tagged]
      | some tag =>
        have last : [call].filterMap (·.tag?) = [tag] := by simp [tagged]
        rw [last, ← List.append_assoc]
        exact (Entries.settled_concat _ tag.1 tag.2).symm

/-- Any calls bring a draft with distinct tags into the normal form of those calls. -/
theorem normalForm_foldl (keyed : start.tags.WellKeyed) (calls : List DraftCall) :
    start.NormalForm calls (calls.foldl after start) := by
  -- From the end, for the last call decides whether those before it still count.
  induction calls using List.reverseRecOn with
  | nil => exact normalForm_nil keyed
  | append_singleton earlier call ih =>
    rw [List.foldl_append]
    exact ih.concat call

end Calls

end Draft

end TraceFilter
