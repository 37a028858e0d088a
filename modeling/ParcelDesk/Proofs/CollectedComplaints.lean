import Mathlib.Algebra.GroupWithZero.Nat
import ParcelDesk.Envelope
import ParcelDesk.Proofs.GroupedComplaints

/-!
Complaints that are collected one by one, in the order in which a form is looked through, and then
told per field. The map of messages keeps each of them, with its field and its place among the
messages of that field, and an envelope to which the same messages are attached one by one ends up
with the same map. All that the map forgets is how the messages of different fields took turns.
-/

namespace ParcelDesk

/-! ### Remarks -/

inductive Remark where
  | plain (field message : String)
  | checked (broken : Bool) (field message : String)
deriving DecidableEq, Repr

namespace Remark

def addTo (c : Complaints) : Remark → Complaints
  | plain field message => c.add field message
  | checked broken field message => c.check broken field message

def recorded? : Remark → Option (String × String)
  | plain field message => some (field, message)
  | checked broken field message => if broken then some (field, message) else none

def about? (field : String) (r : Remark) : Option String :=
  r.recorded?.bind fun p => if p.1 = field then some p.2 else none

def collected (rs : List Remark) : Complaints := rs.foldl addTo []

def recorded (rs : List Remark) : Complaints := rs.filterMap recorded?

def about (field : String) (rs : List Remark) : List String := rs.filterMap (about? field)

theorem addTo_eq (c : Complaints) (r : Remark) : addTo c r = c ++ r.recorded?.toList := by
  cases r with
  | plain field message => rfl
  | checked broken field message =>
    cases broken with
    | false => exact (List.append_nil c).symm
    | true => rfl

theorem recorded_cons (r : Remark) (rs : List Remark) :
    recorded (r :: rs) = r.recorded?.toList ++ recorded rs := by
  rw [recorded, List.filterMap_cons]
  cases r.recorded? <;> rfl

theorem foldl_addTo (rs : List Remark) (c : Complaints) :
    rs.foldl addTo c = c ++ recorded rs := by
  induction rs generalizing c with
  | nil => exact (List.append_nil c).symm
  | cons r rs ih =>
    rw [List.foldl_cons, ih, addTo_eq, List.append_assoc, recorded_cons]

theorem collected_eq (rs : List Remark) : collected rs = recorded rs := foldl_addTo rs []

theorem mem_recorded_iff (rs : List Remark) (field message : String) :
    (field, message) ∈ recorded rs ↔
      plain field message ∈ rs ∨ checked true field message ∈ rs := by
  rw [recorded, List.mem_filterMap]
  constructor
  · rintro ⟨r, hr, hrecorded⟩
    cases r with
    | plain f m =>
      cases hrecorded
      exact .inl hr
    | checked broken f m =>
      cases broken with
      | false => cases hrecorded
      | true =>
        cases hrecorded
        exact .inr hr
  · rintro (hr | hr) <;> exact ⟨_, hr, rfl⟩

end Remark

/-! ### One more message -/

namespace Complaints

theorem messages_append (c d : Complaints) (field : String) :
    (c ++ d).messages field = c.messages field ++ d.messages field := by
  rw [messages, List.filter_append, List.map_append]
  rfl

theorem messages_cons (p : String × String) (c : Complaints) (field : String) :
    messages (p :: c) field =
      if p.1 = field then p.2 :: c.messages field else c.messages field := by
  unfold messages
  rw [List.filter_cons]
  by_cases h : p.1 = field <;> simp [h]

theorem messages_recorded (rs : List Remark) (field : String) :
    (Remark.recorded rs).messages field = Remark.about field rs := by
  induction rs with
  | nil => rfl
  | cons r rs ih =>
    rw [Remark.recorded_cons, Remark.about, List.filterMap_cons, Remark.about?]
    cases r.recorded? with
    | none => exact ih
    | some p =>
      rw [Option.toList_some, List.singleton_append, messages_cons, ih, Option.bind_some]
      by_cases h : p.1 = field <;> simp [h, Remark.about]

theorem fields_add (c : Complaints) (field message : String) :
    (c.add field message).fields =
      if field ∈ c.fields then c.fields else c.fields ++ [field] := by
  rw [add, fields, List.map_append, List.eraseDups_append]
  by_cases h : field ∈ c.fields
  · have hmem : field ∈ c.map Prod.fst := List.mem_eraseDups.mp h
    simp [fields, List.removeAll, hmem]
  · have hnot : field ∉ c.map Prod.fst := fun hmem => h (List.mem_eraseDups.mpr hmem)
    simp [fields, List.removeAll, List.eraseDups_cons, hnot]

end Complaints

def FieldErrors.addAll (m : FieldErrors) (c : Complaints) : FieldErrors :=
  c.foldl (fun m p => m.add p.1 p.2) m

theorem FieldErrors.addAll_cons (m : FieldErrors) (p : String × String) (c : Complaints) :
    m.addAll (p :: c) = (m.add p.1 p.2).addAll c := rfl

/-- A message is added to those of its field, or opens a list at the end. -/
theorem FieldErrors.add_map {fields : List String} (hnodup : fields.Nodup)
    (messages : String → List String) (field message : String)
    (hnew : field ∉ fields → messages field = []) :
    FieldErrors.add field message (fields.map fun f => (f, messages f)) =
      (if field ∈ fields then fields else fields ++ [field]).map fun f =>
        (f, messages f ++ if field = f then [message] else []) := by
  induction fields with
  | nil => simp [FieldErrors.add, hnew List.not_mem_nil]
  | cons f rest ih =>
    obtain ⟨hf, hrest⟩ := List.nodup_cons.mp hnodup
    rw [List.map_cons, FieldErrors.add]
    by_cases hsame : f = field
    · subst hsame
      have hothers : rest.map (fun g => (g, messages g)) =
          rest.map fun g => (g, messages g ++ if f = g then [message] else []) := by
        refine List.map_congr_left fun g hg => ?_
        have hne : f ≠ g := fun heq => hf (heq ▸ hg)
        rw [if_neg hne, List.append_nil]
      simp [hothers]
    · rw [if_neg hsame, ih hrest fun hnot => hnew (by simp [hnot, Ne.symm hsame])]
      by_cases hmem : field ∈ rest <;> simp [hmem, Ne.symm hsame]

namespace Complaints

/-- To group and then add a message is to add it and then group. -/
theorem add_grouped (c : Complaints) (field message : String) :
    c.grouped.add field message = (c.add field message).grouped := by
  have hmessages (f : String) :
      (c.add field message).messages f = c.messages f ++ if field = f then [message] else [] := by
    rw [add, messages_append, messages_cons]
    rfl
  rw [grouped, FieldErrors.add_map (nodup_fields c) _ _ _ (messages_eq_nil_iff c field).mpr,
    grouped, fields_add]
  simp only [hmessages]

theorem addAll_grouped (c d : Complaints) : c.grouped.addAll d = (c ++ d).grouped := by
  induction d generalizing c with
  | nil => exact congrArg grouped (List.append_nil c).symm
  | cons p d ih =>
    rw [FieldErrors.addAll_cons, add_grouped, ih, add, List.append_assoc, List.singleton_append]

theorem addAll_nil (c : Complaints) : FieldErrors.addAll [] c = c.grouped := addAll_grouped [] c

end Complaints

/-! ### Counting -/

def FieldErrors.count (m : FieldErrors) : Nat := (m.map fun group => group.2.length).sum

theorem FieldErrors.count_add (m : FieldErrors) (field message : String) :
    (m.add field message).count = m.count + 1 := by
  induction m with
  | nil => rfl
  | cons group m ih =>
    rw [add]
    split
    · simp only [count, List.map_cons, List.sum_cons, List.length_append, List.length_singleton]
      omega
    · simp only [count, List.map_cons, List.sum_cons] at ih ⊢
      omega

theorem FieldErrors.count_addAll (m : FieldErrors) (c : Complaints) :
    (m.addAll c).count = m.count + c.length := by
  induction c generalizing m with
  | nil => rfl
  | cons p c ih =>
    rw [addAll_cons, ih, count_add, List.length_cons]
    omega

theorem Complaints.count_grouped (c : Complaints) : c.grouped.count = c.length := by
  rw [← addAll_nil, FieldErrors.count_addAll]
  exact Nat.zero_add _

/-! ### Envelopes -/

namespace ErrorEnvelope

def withEach (e : ErrorEnvelope) (c : Complaints) : ErrorEnvelope :=
  c.foldl (fun e p => e.withFieldError p.1 p.2) e

/-- One after another, the messages are attached to those that are there. -/
theorem withEach_cons (e : ErrorEnvelope) (p : String × String) (c : Complaints) :
    e.withEach (p :: c) = e.withErrors ((e.errors.getD []).addAll (p :: c)) := by
  induction c generalizing e p with
  | nil => rfl
  | cons q c ih => exact ih (e.withFieldError p.1 p.2) q

/-- An envelope gets all the messages of a form one by one as it gets the map of them. -/
theorem withEach_ofStatus (status : Nat) (message : String) (c : Complaints) :
    (ofStatus status message).withEach c =
      if c = [] then ofStatus status message
      else (ofStatus status message).withErrors c.grouped := by
  cases c with
  | nil => rfl
  | cons p c =>
    rw [withEach_cons, if_neg (List.cons_ne_nil p c)]
    exact congrArg _ (Complaints.addAll_nil (p :: c))

end ErrorEnvelope

/-! ### Taking turns -/

namespace Complaints

open Remark (collected recorded about collected_eq mem_recorded_iff)

/-- Neighbours that are about different fields have changed places. -/
inductive Reordered : Complaints → Complaints → Prop
  | nil : Reordered [] []
  | cons (p : String × String) {c d : Complaints} (h : Reordered c d) : Reordered (p :: c) (p :: d)
  | swap {p q : String × String} (h : p.1 ≠ q.1) (c : Complaints) :
    Reordered (p :: q :: c) (q :: p :: c)
  | trans {c d e : Complaints} (h : Reordered c d) (h' : Reordered d e) : Reordered c e

namespace Reordered

theorem refl (c : Complaints) : Reordered c c := by
  induction c with
  | nil => exact .nil
  | cons p c ih => exact .cons p ih

theorem messages_eq {c d : Complaints} (h : Reordered c d) (field : String) :
    c.messages field = d.messages field := by
  induction h with
  | nil => rfl
  | cons p h ih => rw [messages_cons, messages_cons, ih]
  | @swap p q hne c =>
    simp only [messages_cons]
    by_cases hp : p.1 = field
    · have hq : q.1 ≠ field := fun hq => hne (hp.trans hq.symm)
      simp [hp, hq]
    · simp [hp]
  | trans h h' ih ih' => exact ih.trans ih'

/-- A message can go behind others, as long as none of them is about its field. -/
theorem behind {p : String × String} {pre : Complaints} (h : ∀ q ∈ pre, p.1 ≠ q.1)
    (post : Complaints) : Reordered (p :: (pre ++ post)) (pre ++ p :: post) := by
  induction pre with
  | nil => exact .refl _
  | cons q pre ih =>
    obtain ⟨hq, hpre⟩ := List.forall_mem_cons.mp h
    exact .trans (.swap hq _) (.cons q (ih hpre))

end Reordered

/-- The first message about a field, and what was collected before and after it. -/
theorem exists_first {c : Complaints} {field message : String} {rest : List String}
    (h : c.messages field = message :: rest) :
    ∃ pre post, c = pre ++ (field, message) :: post ∧ ∀ q ∈ pre, field ≠ q.1 := by
  obtain ⟨p, ps, hfilter, rfl, -⟩ := List.map_eq_cons_iff.mp h
  obtain ⟨pre, post, rfl, hpre, hp, -⟩ := List.filter_eq_cons_iff.mp hfilter
  refine ⟨pre, post, ?_, fun q hq heq => hpre q hq (beq_iff_eq.mpr heq.symm)⟩
  rw [← eq_of_beq hp]

/-- Complaints that agree about every field differ in the turns of the fields only. -/
theorem reordered_of_messages_eq {c d : Complaints}
    (h : ∀ field, c.messages field = d.messages field) : Reordered c d := by
  induction c generalizing d with
  | nil =>
    have hnone : d = [] := by
      refine List.eq_nil_iff_forall_not_mem.mpr fun p hp => ?_
      have hfield := (mem_fields_iff d p.1).mpr ⟨p.2, hp⟩
      exact (messages_eq_nil_iff d p.1).mp (h p.1).symm hfield
    rw [hnone]
    exact .nil
  | cons p c ih =>
    have hfirst : d.messages p.1 = p.2 :: messages c p.1 := by
      rw [← h, messages_cons, if_pos rfl]
    -- what comes first in `c` is brought to the front of the other list, and the rest agrees again
    obtain ⟨pre, post, rfl, hpre⟩ := exists_first hfirst
    have hmoved : Reordered (p :: (pre ++ post)) (pre ++ p :: post) := .behind hpre post
    refine .trans (.cons p (ih fun field => ?_)) hmoved
    have hboth : messages (p :: c) field = messages (p :: (pre ++ post)) field :=
      (h field).trans (hmoved.messages_eq field).symm
    rw [messages_cons, messages_cons] at hboth
    split at hboth
    · exact (List.cons.inj hboth).2
    · exact hboth

theorem reordered_iff (c d : Complaints) :
    Reordered c d ↔ ∀ field, c.messages field = d.messages field :=
  ⟨Reordered.messages_eq, reordered_of_messages_eq⟩

theorem grouped_perm_iff (c d : Complaints) :
    c.grouped.Perm d.grouped ↔ ∀ field, c.messages field = d.messages field := by
  rw [List.perm_ext_iff_of_nodup (nodup_keys_grouped c).of_map (nodup_keys_grouped d).of_map]
  constructor
  · intro h field
    have hentry (ms : List String) := h (field, ms)
    simp only [mem_grouped_iff_messages] at hentry
    by_cases hnone : c.messages field = []
    · by_contra hne
      exact hne ((hentry _).mpr ⟨fun hd => hne (hnone.trans hd.symm), rfl⟩).2
    · exact ((hentry _).mp ⟨hnone, rfl⟩).2.symm
  · rintro h ⟨field, ms⟩
    rw [mem_grouped_iff_messages, mem_grouped_iff_messages, h]

/-- What becomes of the complaints about a form, whatever calls collect them. The map names the
fields of the messages that were recorded, each once, with all its messages in order; it holds as
many messages as were recorded; it is what a form is refused with, and a form without a message is
not refused; and it is the map that comes about by adding the same messages one by one, also in an
envelope, which has no map before the first. Other calls give the same map exactly if they record
the same messages, up to the turns of different fields. -/
theorem messages_are_grouped_by_field (rs : List Remark) :
    (collected rs = recorded rs ∧ (collected rs).grouped = .addAll [] (recorded rs)) ∧
    (((collected rs).grouped.map Prod.fst).Nodup ∧
      ∀ field, field ∈ (collected rs).grouped.map Prod.fst ↔
        ∃ message, .plain field message ∈ rs ∨ .checked true field message ∈ rs) ∧
    (∀ field, (collected rs).grouped.lookup field =
      if about field rs = [] then none else some (about field rs)) ∧
    ((collected rs).grouped.map fun group => group.2.length).sum = (collected rs).length ∧
    ((collected rs).verdict = .ok () ↔ recorded rs = []) ∧
    (∀ m, (collected rs).verdict = .error m ↔
      recorded rs ≠ [] ∧ m = (collected rs).grouped) ∧
    (∀ status text, (ErrorEnvelope.ofStatus status text).withEach (recorded rs) =
      if recorded rs = [] then .ofStatus status text
      else (ErrorEnvelope.ofStatus status text).withErrors (collected rs).grouped) ∧
    ∀ rs', (collected rs).grouped.Perm (collected rs').grouped ↔
      Reordered (recorded rs) (recorded rs') := by
  have hcollected := collected_eq rs
  refine ⟨⟨hcollected, ?added⟩, ⟨nodup_keys_grouped _, ?keys⟩, ?lists, count_grouped _, ?accepted,
    ?refused, ?attached, ?turns⟩
  case added => rw [addAll_nil, hcollected]
  case keys =>
    intro field
    rw [keys_grouped, mem_fields_iff, hcollected]
    exact exists_congr (mem_recorded_iff rs field)
  case lists =>
    intro field
    rw [lookup_grouped, hcollected, messages_recorded]
  case accepted => rw [verdict_eq_ok_iff, hcollected]
  case refused =>
    intro m
    rw [verdict_eq_error_iff, hcollected]
  case attached =>
    intro status text
    rw [hcollected, ErrorEnvelope.withEach_ofStatus]
  case turns =>
    intro rs'
    rw [grouped_perm_iff, reordered_iff, hcollected, collected_eq rs']

/-- The phone takes its turn between two messages about the store, and the name is in order. -/
example : (collected [.plain "store_id" "Pick a store.", .checked true "phone" "Too short.",
    .checked false "name" "Too long.", .plain "store_id" "Wrong store."]).grouped =
      [("store_id", ["Pick a store.", "Wrong store."]), ("phone", ["Too short."])] := by
  decide

end Complaints

end ParcelDesk
