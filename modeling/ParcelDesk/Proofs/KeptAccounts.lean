import Mathlib.Algebra.Group.Int.Defs
import Mathlib.Data.List.Nodup
import ParcelDesk.Proofs.UniqueAccounts

/-!
What an insertion does to the accounts that were there. Names and emails decide whether an account
is let in, but it is kept under an id: the next one if it brings none, else its own. The next id is
nobody's. An account that comes with the id of another one takes its place, and that one is gone.
-/

namespace ParcelDesk.UserStore

variable {s t : UserStore} {u row : User}

structure Gains (s t : UserStore) (row : User) : Prop where
  stays : ∀ v ∈ s.rows, v ∈ t.rows
  one : t.rows.Perm (row :: s.rows)
  fresh : ∀ v ∈ s.rows, v.id ≠ row.id

/-- The account has been put in the place of another one, which is gone; the rest are as they
were. -/
structure Displaces (s t : UserStore) (row v : User) : Prop where
  gone : v ∉ t.rows
  rest : t.rows.Perm (row :: s.rows.erase v)

/-- There are signed words above the ids of all accounts. -/
def HasRoom (s : UserStore) : Prop := ∀ v ∈ s.rows, -2 ^ 63 ≤ v.id ∧ v.id < 2 ^ 63 - 1

theorem lt_nextId (h : s.HasRoom) : ∀ v ∈ s.rows, v.id < s.nextId := by
  intro v hv
  have hmem : v.id ∈ s.rows.map User.id := List.mem_map_of_mem hv
  cases hmax : (s.rows.map User.id).max? with
  | none =>
    rw [List.max?_eq_none_iff.mp hmax] at hmem
    cases hmem
  | some m =>
    obtain ⟨hgreatest, hle⟩ := List.max?_eq_some_iff.mp hmax
    obtain ⟨w, hw, hm⟩ := List.mem_map.mp hgreatest
    have hroom := h w hw
    have hnext : s.nextId = m + 1 := by
      rw [nextId, hmax]
      exact Int64.toInt_ofInt_of_le (by omega) (by omega)
    have hbound : v.id ≤ m := hle v.id hmem
    omega

/-- An account that has been let in is apart from all others. -/
theorem of_insert_ok (h : s.insert u = (.ok row, t)) :
    row = s.placed u ∧ t.rows = s.rows.filter (fun v => v.id ≠ row.id) ++ [row] ∧
      ∀ v ∈ s.rows, v.Apart row := by
  by_cases hfree : ∀ v ∈ s.rows, v.Apart u
  · rw [insert_of_free hfree, Prod.mk.injEq, Except.ok.injEq] at h
    obtain ⟨rfl, rfl⟩ := h
    exact ⟨rfl, rfl, fun v hv => ⟨(hfree v hv).names, (hfree v hv).emails⟩⟩
  · push Not at hfree
    rw [insert_of_taken hfree] at h
    cases h

theorem gains_of_insert (h : s.insert u = (.ok row, t)) (hfresh : ∀ v ∈ s.rows, v.id ≠ row.id) :
    s.Gains t row := by
  obtain ⟨-, hrows, -⟩ := of_insert_ok h
  have hall : s.rows.filter (fun v => v.id ≠ row.id) = s.rows :=
    List.filter_eq_self.mpr fun v hv => decide_eq_true (hfresh v hv)
  rw [hall] at hrows
  refine ⟨fun v hv => ?_, ?_, hfresh⟩
  · rw [hrows]
    exact List.mem_append_left _ hv
  · rw [hrows]
    exact List.perm_append_singleton row s.rows

/-- Ids are distinct, so one account at most has the id of the new one. -/
theorem filter_id_eq_erase (hids : (s.rows.map User.id).Nodup) {v : User} (hv : v ∈ s.rows) :
    s.rows.filter (fun w => w.id ≠ v.id) = s.rows.erase v := by
  rw [(List.Nodup.of_map _ hids).erase_eq_filter]
  refine List.filter_congr fun w hw => ?_
  have hsame : w.id = v.id ↔ w = v :=
    ⟨fun h => List.inj_on_of_nodup_map hids hw hv h, fun h => congrArg User.id h⟩
  rw [Bool.eq_iff_iff, decide_eq_true_iff, bne_iff_ne, Ne, hsame]

theorem displaces_of_insert (hids : (s.rows.map User.id).Nodup) (h : s.insert u = (.ok row, t))
    {v : User} (hv : v ∈ s.rows) (hid : v.id = row.id) : s.Displaces t row v := by
  obtain ⟨-, hrows, hapart⟩ := of_insert_ok h
  rw [← hid, filter_id_eq_erase hids hv] at hrows
  constructor
  · rw [hrows, List.mem_append, List.mem_singleton]
    rintro (herased | hrow)
    · exact (List.Nodup.of_map _ hids).not_mem_erase herased
    · exact (hapart v hv).names (congrArg User.name hrow)
  · rw [hrows]
    exact List.perm_append_singleton row _

/-- Whatever accounts are kept, an account that is let in without an id, or with one that nobody
has, is added under an id of its own, and all others stay as they were; the next id is greater than
all of them, negative ones included. An account that is let in with the id of another one takes its
place: that account is destroyed, and no other one changes. -/
theorem taken_ids_displace (hids : (s.rows.map User.id).Nodup) (h : s.insert u = (.ok row, t)) :
    row = { u with id := row.id } ∧
    (u.id = 0 → s.HasRoom → s.Gains t row ∧ ∀ v ∈ s.rows, v.id < row.id) ∧
    (u.id ≠ 0 → row.id = u.id) ∧
    ((∀ v ∈ s.rows, v.id ≠ row.id) → s.Gains t row) ∧
    ∀ v ∈ s.rows, v.id = row.id → s.Displaces t row v := by
  have hplaced : row = s.placed u := (of_insert_ok h).1
  refine ⟨by rw [hplaced, placed], fun hnone hroom => ?_, fun hgiven => ?_, gains_of_insert h,
    fun v hv => displaces_of_insert hids h hv⟩
  · have hnext : row.id = s.nextId := by rw [hplaced, placed, if_pos hnone]
    have habove : ∀ v ∈ s.rows, v.id < row.id := by
      rw [hnext]
      exact lt_nextId hroom
    exact ⟨gains_of_insert h fun v hv => Int.ne_of_lt (habove v hv), habove⟩
  · rw [hplaced, placed, if_neg hgiven]

def karimUnder (id : Int) : User := accountUnder id "karim" "karim@example.com" none

def salmaUnder (id : Int) : User := accountUnder id "salma" "salma@example.com" none

/-- Next to an account under a negative id, one without an id gets the id above it. One that comes
with the id of the other leaves only itself. -/
theorem karim_is_displaced :
    UserStore.Gains ⟨[karimUnder (-3)]⟩ ⟨[karimUnder (-3), salmaUnder (-2)]⟩ (salmaUnder (-2)) ∧
    UserStore.Displaces ⟨[karimUnder 7]⟩ ⟨[salmaUnder 7]⟩ (salmaUnder 7) (karimUnder 7) := by
  have hnext : UserStore.insert ⟨[karimUnder (-3)]⟩ (salmaUnder 0) =
      (.ok (salmaUnder (-2)), ⟨[karimUnder (-3), salmaUnder (-2)]⟩) := rfl
  have hsame : UserStore.insert ⟨[karimUnder 7]⟩ (salmaUnder 7) =
      (.ok (salmaUnder 7), ⟨[salmaUnder 7]⟩) := rfl
  have hroom : UserStore.HasRoom ⟨[karimUnder (-3)]⟩ := by
    intro v hv
    rw [List.mem_singleton.mp hv]
    decide
  obtain ⟨-, hgains, -⟩ := taken_ids_displace (by decide) hnext
  obtain ⟨-, -, -, -, hdisplaces⟩ := taken_ids_displace (by decide) hsame
  exact ⟨(hgains rfl hroom).1, hdisplaces _ List.mem_cons_self rfl⟩

end ParcelDesk.UserStore
