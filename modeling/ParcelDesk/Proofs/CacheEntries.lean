import ParcelDesk.Cache.Memory
import ParcelDesk.Proofs.CacheKeys

/-!
What a change of the cache does to the texts under other keys. A text that is found after a change
was there before, or it is the one that was set. What is recorded of an order changes only when it
is mirrored or evicted.
-/

namespace ParcelDesk.Cache

namespace Entries

variable {α : Type}

theorem lookup_erase_of_ne {key k : String} (h : k ≠ key) (es : Entries α) :
    (erase key es).lookup k = es.lookup k := by
  induction es with
  | nil => rfl
  | cons e es ih =>
    obtain ⟨name, a⟩ := e
    by_cases hname : name = key
    · have hbeq : (k == name) = false := by simpa [hname] using h
      have hdrop : erase key ((name, a) :: es) = erase key es := by simp [erase, hname]
      rw [hdrop, ih, List.lookup_cons, hbeq]
    · have hkeep : erase key ((name, a) :: es) = (name, a) :: erase key es := by
        simp [erase, hname]
      rw [hkeep, List.lookup_cons, List.lookup_cons, ih]

theorem lookup_put_of_ne {key k : String} (h : k ≠ key) (a : α) (es : Entries α) :
    (put key a es).lookup k = es.lookup k := by
  have hbeq : (k == key) = false := by simpa using h
  rw [put, List.lookup_cons, hbeq]
  exact lookup_erase_of_ne h es

end Entries

namespace Memory

@[simp]
theorem set_clock (m : Memory) (key value : String) (seconds : Nat) :
    (m.set key value seconds).2.clock = m.clock := by
  unfold set change
  split <;> rfl

@[simp]
theorem set_isDown (m : Memory) (key value : String) (seconds : Nat) :
    (m.set key value seconds).2.isDown = m.isDown := by
  unfold set change
  split <;> rfl

theorem lookup_set_self {m : Memory} (hup : m.isDown = false) (key value : String)
    (seconds : Nat) :
    (m.set key value seconds).2.texts.lookup key = some ⟨value, m.clock + seconds * 1000⟩ := by
  simp only [set, change, hup, Bool.false_eq_true, ↓reduceIte]
  exact Entries.lookup_put_self _ _ _

theorem lookup_set_of_ne {m : Memory} {key k : String} (h : k ≠ key) (value : String)
    (seconds : Nat) : (m.set key value seconds).2.texts.lookup k = m.texts.lookup k := by
  unfold set change
  split
  · rfl
  · exact Entries.lookup_put_of_ne h _ _

/-- A text that is found after another was set was found before, or is the one that was set. -/
theorem lookup_of_lookup_set {m : Memory} {key value k : String} {seconds : Nat} {e : Expiring}
    (h : (m.set key value seconds).2.texts.lookup k = some e) :
    m.texts.lookup k = some e ∨ k = key ∧ e = ⟨value, m.clock + seconds * 1000⟩ := by
  unfold set change at h
  split at h
  · exact .inl h
  · by_cases hk : k = key
    · subst hk
      rw [Entries.lookup_put_self] at h
      exact .inr ⟨rfl, (Option.some.inj h).symm⟩
    · rw [Entries.lookup_put_of_ne hk] at h
      exact .inl h

def deleteAll (keys : List String) (m : Memory) : Memory :=
  keys.foldl (fun m key => (m.delete key).2) m

@[simp]
theorem delete_clock (m : Memory) (key : String) : (m.delete key).2.clock = m.clock := by
  unfold delete change
  split <;> rfl

@[simp]
theorem delete_isDown (m : Memory) (key : String) : (m.delete key).2.isDown = m.isDown := by
  unfold delete change
  split <;> rfl

@[simp]
theorem deleteAll_clock (keys : List String) (m : Memory) :
    (deleteAll keys m).clock = m.clock := by
  induction keys generalizing m with
  | nil => rfl
  | cons key keys ih => exact (ih _).trans (delete_clock m key)

@[simp]
theorem deleteAll_isDown (keys : List String) (m : Memory) :
    (deleteAll keys m).isDown = m.isDown := by
  induction keys generalizing m with
  | nil => rfl
  | cons key keys ih => exact (ih _).trans (delete_isDown m key)

theorem deleteAll_of_isDown {m : Memory} (hdown : m.isDown = true) (keys : List String) :
    deleteAll keys m = m := by
  induction keys with
  | nil => rfl
  | cons key keys ih =>
    have hstays : (m.delete key).2 = m := by
      simp only [delete, change, hdown, ↓reduceIte]
    change deleteAll keys (m.delete key).2 = m
    rw [hstays, ih]

/-- A text that is found after a deletion was found before. -/
theorem lookup_of_lookup_delete {m : Memory} {key k : String} {e : Expiring}
    (h : (m.delete key).2.texts.lookup k = some e) : m.texts.lookup k = some e := by
  unfold delete change at h
  split at h
  · exact h
  · by_cases hk : k = key
    · subst hk
      simp [Entries.lookup_erase_self] at h
    · rwa [Entries.lookup_erase_of_ne hk] at h

theorem lookup_of_lookup_deleteAll {m : Memory} {keys : List String} {k : String} {e : Expiring}
    (h : (deleteAll keys m).texts.lookup k = some e) : m.texts.lookup k = some e := by
  induction keys generalizing m with
  | nil => exact h
  | cons key keys ih => exact lookup_of_lookup_delete (ih h)

theorem lookup_delete_self {m : Memory} (hup : m.isDown = false) (key : String) :
    (m.delete key).2.texts.lookup key = none := by
  simp only [delete, change, hup, Bool.false_eq_true, ↓reduceIte]
  exact Entries.lookup_erase_self _ _

theorem lookup_delete_of_ne {m : Memory} {key k : String} (h : k ≠ key) :
    (m.delete key).2.texts.lookup k = m.texts.lookup k := by
  unfold delete change
  split
  · rfl
  · exact Entries.lookup_erase_of_ne h _

/-- With the cache in reach, exactly the keys that were asked for are gone. -/
theorem lookup_deleteAll {m : Memory} (hup : m.isDown = false) (keys : List String) (k : String) :
    (deleteAll keys m).texts.lookup k = if k ∈ keys then none else m.texts.lookup k := by
  induction keys generalizing m with
  | nil => rfl
  | cons key keys ih =>
    have hstep := ih (m := (m.delete key).2) (by rw [delete_isDown, hup])
    change (deleteAll keys (m.delete key).2).texts.lookup k = _
    rw [hstep]
    by_cases hk : k = key
    · subst hk
      simp [lookup_delete_self hup]
    · simp [hk, lookup_delete_of_ne hk]

theorem text?_deleteAll {m : Memory} (hup : m.isDown = false) (keys : List String) (k : String) :
    (deleteAll keys m).text? k = if k ∈ keys then none else m.text? k := by
  rw [text?, text?, lookup_deleteAll hup, deleteAll_clock]
  split <;> rfl

theorem text?_eq_some {m : Memory} {key v : String} (h : m.text? key = some v) :
    ∃ e, m.texts.lookup key = some e ∧ m.clock < e.expiresAt ∧ e.value = v := by
  simp only [text?, Option.map_eq_some_iff, Option.filter_eq_some_iff, decide_eq_true_eq] at h
  obtain ⟨e, ⟨hlookup, hlive⟩, hvalue⟩ := h
  exact ⟨e, hlookup, hlive, hvalue⟩

theorem change_of_isDown {m : Memory} (hdown : m.isDown = true) (f : Memory → Memory) :
    m.change f = (.error .unavailable, m) := by
  rw [change, if_pos hdown]

theorem change_of_isUp {m : Memory} (hup : m.isDown = false) (f : Memory → Memory) :
    m.change f = (.ok (), f m) := by
  rw [change, if_neg (by simp [hup])]

/-- What the cache keeps of an order: the fields under its key, and its entries in the index. -/
def recorded (m : Memory) (consignmentId : String) :
    Option (List (String × String)) × List (Int × String) :=
  (m.mirrors.lookup (orderKey consignmentId), m.index.filter fun e => e.2 = consignmentId)

theorem recorded_mirror {m : Memory} (hup : m.isDown = false) (o : Order) (id : String) :
    (m.mirror o).2.recorded id =
      if id = o.consignmentId then
        (some (orderFields o), [(o.createdAt.seconds, o.consignmentId)])
      else m.recorded id := by
  rw [mirror, change_of_isUp hup]
  unfold recorded unindexed
  simp only [List.filter_append, List.filter_filter]
  split
  · rename_i hsame
    rw [hsame, Entries.lookup_put_self]
    simp
  · rename_i hother
    rw [Entries.lookup_put_of_ne fun h => hother (orderKey_injective h)]
    have hnew : [(o.createdAt.seconds, o.consignmentId)].filter (fun e => e.2 = id) = [] := by
      simp [Ne.symm hother]
    rw [hnew, List.append_nil]
    congr 1
    refine List.filter_congr fun e _ => ?_
    by_cases he : e.2 = id <;> simp [he, hother]

theorem recorded_evict {m : Memory} (hup : m.isDown = false) (consignmentId id : String) :
    (m.evict consignmentId).2.recorded id =
      if id = consignmentId then (none, []) else m.recorded id := by
  rw [evict, change_of_isUp hup]
  unfold recorded unindexed
  simp only [List.filter_filter]
  split
  · rename_i hsame
    rw [hsame, Entries.lookup_erase_self]
    simp
  · rename_i hother
    rw [Entries.lookup_erase_of_ne fun h => hother (orderKey_injective h)]
    congr 1
    refine List.filter_congr fun e _ => ?_
    by_cases he : e.2 = id <;> simp [he, hother]

@[simp]
theorem recorded_set (m : Memory) (key value : String) (seconds : Nat) (id : String) :
    (m.set key value seconds).2.recorded id = m.recorded id := by
  unfold set change
  split <;> rfl

theorem recorded_delete {key : String} (h : NotOfOrders key) (m : Memory) (id : String) :
    (m.delete key).2.recorded id = m.recorded id := by
  unfold delete change
  split
  · rfl
  · unfold recorded
    simp only [h.ne_index, ↓reduceIte]
    rw [Entries.lookup_erase_of_ne (h.ne_order id)]

theorem recorded_deleteAll {keys : List String} (h : ∀ key ∈ keys, NotOfOrders key) (m : Memory)
    (id : String) : (deleteAll keys m).recorded id = m.recorded id := by
  induction keys generalizing m with
  | nil => rfl
  | cons key keys ih =>
    have hrest := ih (fun k hk => h k (List.mem_cons_of_mem key hk)) (m.delete key).2
    exact hrest.trans (recorded_delete (h key List.mem_cons_self) m id)

end Memory

end ParcelDesk.Cache
