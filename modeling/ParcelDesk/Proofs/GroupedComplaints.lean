import Mathlib.Data.List.Nodup
import ParcelDesk.FieldErrors

/-!
Complaints per field. However the messages were collected, every field with a message is there once,
with all its messages in the order of collection, and no other field is there.
-/

namespace ParcelDesk

section Lists

variable {α : Type} [BEq α] [LawfulBEq α]

/-- The recursion is on the items that differ from the first one, not on the tail. -/
theorem nodup_eraseDups (as : List α) : as.eraseDups.Nodup := by
  match as with
  | [] => exact List.nodup_nil
  | a :: rest =>
    have ih := nodup_eraseDups (rest.filter fun b => !b == a)
    rw [List.eraseDups_cons, List.nodup_cons]
    refine ⟨?_, ih⟩
    rw [List.mem_eraseDups]
    simp
termination_by as.length
decreasing_by exact Nat.lt_succ_of_le (List.length_filter_le _ rest)

/-- A list of keys with a value for each is a look-up table. -/
theorem lookup_map_pair {β : Type} (value : α → β) {keys : List α} {key : α} (h : key ∈ keys) :
    (keys.map fun k => (k, value k)).lookup key = some (value key) := by
  induction keys with
  | nil => cases h
  | cons k rest ih =>
    rw [List.map_cons, List.lookup_cons]
    by_cases hk : key = k
    · rw [hk, beq_self_eq_true]
    · rw [beq_eq_false_iff_ne.mpr hk]
      exact ih (List.mem_of_ne_of_mem hk h)

end Lists

namespace Complaints

theorem verdict_eq_ok_iff (c : Complaints) : c.verdict = .ok () ↔ c = [] := by
  unfold verdict
  split
  · rename_i hempty
    simpa using hempty
  · rename_i hsome
    simpa using hsome

theorem verdict_eq_error_iff (c : Complaints) (e : FieldErrors) :
    c.verdict = .error e ↔ c ≠ [] ∧ e = c.grouped := by
  unfold verdict
  split
  · rename_i hempty
    simp [List.isEmpty_iff.mp hempty]
  · rename_i hsome
    have hne : c ≠ [] := fun hnil => hsome (List.isEmpty_iff.mpr hnil)
    rw [Except.error.injEq, eq_comm]
    simp [hne]

theorem mem_fields_iff (c : Complaints) (field : String) :
    field ∈ c.fields ↔ ∃ message, (field, message) ∈ c := by
  rw [fields, List.mem_eraseDups, List.mem_map]
  constructor
  · intro h
    rcases h with ⟨⟨_, message⟩, hmem, rfl⟩
    exact ⟨message, hmem⟩
  · intro h
    rcases h with ⟨message, hmem⟩
    exact ⟨_, hmem, rfl⟩

theorem keys_grouped (c : Complaints) : c.grouped.map Prod.fst = c.fields := by
  rw [grouped, List.map_map]
  exact List.map_id c.fields

theorem nodup_fields (c : Complaints) : c.fields.Nodup := nodup_eraseDups _

/-- No field is shown twice. -/
theorem nodup_keys_grouped (c : Complaints) : (c.grouped.map Prod.fst).Nodup := by
  rw [keys_grouped]
  exact nodup_fields c

theorem mem_grouped_iff (c : Complaints) (field : String) (messages : List String) :
    (field, messages) ∈ c.grouped ↔ field ∈ c.fields ∧ messages = c.messages field := by
  rw [grouped, List.mem_map]
  constructor
  · intro h
    rcases h with ⟨f, hf, heq⟩
    cases heq
    exact ⟨hf, rfl⟩
  · intro h
    exact ⟨field, h.1, by rw [h.2]⟩

theorem lookup_grouped_of_mem {c : Complaints} {field : String} (h : field ∈ c.fields) :
    c.grouped.lookup field = some (c.messages field) :=
  lookup_map_pair c.messages h

theorem lookup_grouped_of_notMem {c : Complaints} {field : String} (h : field ∉ c.fields) :
    c.grouped.lookup field = none := by
  rw [List.lookup_eq_none_iff]
  intro entry hentry
  apply bne_iff_ne.mpr
  intro heq
  rw [← keys_grouped, heq] at h
  exact h (List.mem_map_of_mem hentry)

theorem messages_eq_nil_iff (c : Complaints) (field : String) :
    c.messages field = [] ↔ field ∉ c.fields := by
  rw [mem_fields_iff, messages, List.map_eq_nil_iff, List.filter_eq_nil_iff]
  constructor
  · rintro h ⟨message, hmem⟩
    exact h _ hmem (beq_self_eq_true field)
  · intro h p hp hfield
    obtain rfl := eq_of_beq hfield
    exact h ⟨p.2, hp⟩

theorem lookup_grouped (c : Complaints) (field : String) :
    c.grouped.lookup field =
      if c.messages field = [] then none else some (c.messages field) := by
  by_cases hfield : field ∈ c.fields
  · have hsome : c.messages field ≠ [] := fun h => (messages_eq_nil_iff c field).mp h hfield
    rw [lookup_grouped_of_mem hfield, if_neg hsome]
  · rw [lookup_grouped_of_notMem hfield, if_pos ((messages_eq_nil_iff c field).mpr hfield)]

theorem mem_grouped_iff_messages (c : Complaints) (field : String) (messages : List String) :
    (field, messages) ∈ c.grouped ↔ messages ≠ [] ∧ c.messages field = messages := by
  rw [mem_grouped_iff, eq_comm (a := messages)]
  constructor
  · rintro ⟨hfield, rfl⟩
    exact ⟨fun hnone => (messages_eq_nil_iff c field).mp hnone hfield, rfl⟩
  · rintro ⟨hsome, rfl⟩
    exact ⟨not_not.mp fun hfield => hsome ((messages_eq_nil_iff c field).mpr hfield), rfl⟩

end Complaints

end ParcelDesk
