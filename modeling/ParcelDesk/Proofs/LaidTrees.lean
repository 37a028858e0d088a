import Mathlib.Data.List.Induction
import ParcelDesk.Settings.Tree

/-!
What is found in a tree after other trees were laid over it. A tree laid over a path is found at its
end. At any other place, what was found before is still there, unless the path stops above the
place, or turns a table above it into a list.
-/

namespace ParcelDesk.Settings

variable {names : List String} {t u base : Tree}

namespace Tree

def find? : List String → Tree → Option Tree
  | [], t => some t
  | name :: names, t => (t.members.lookup name).bind (find? names)

theorem find?_append (names more : List String) (t : Tree) :
    t.find? (names ++ more) = (t.find? names).bind (find? more) := by
  induction names generalizing t with
  | nil => rfl
  | cons name names ih =>
    rw [List.cons_append, find?, find?, Option.bind_assoc]
    exact Option.bind_congr fun child _ => ih child

def isInner : Tree → Bool
  | scalar _ _ => false
  | _ => true

@[simp]
theorem lookup_putMember_self (name : String) (t : Tree) (ms : List (String × Tree)) :
    (putMember name t ms).lookup name = some t := by
  induction ms with
  | nil => simp [putMember]
  | cons m ms ih =>
    obtain ⟨k, old⟩ := m
    unfold putMember
    by_cases hk : k = name
    · simp [hk]
    · rw [if_neg hk, List.lookup_cons, beq_false_of_ne (Ne.symm hk)]
      exact ih

theorem lookup_putMember_of_ne {name other : String} (h : other ≠ name) (t : Tree)
    (ms : List (String × Tree)) :
    (putMember name t ms).lookup other = ms.lookup other := by
  induction ms with
  | nil => simp [putMember, h]
  | cons m ms ih =>
    obtain ⟨k, old⟩ := m
    unfold putMember
    by_cases hk : k = name
    · rw [if_pos hk, List.lookup_cons, List.lookup_cons, hk, beq_false_of_ne h]
    · rw [if_neg hk, List.lookup_cons, List.lookup_cons, ih]

/-- What lies below a member is put into the member. -/
theorem putAt_key_of_ne_nil {path : Path} (h : path ≠ []) (name : String) (t base : Tree) :
    putAt t (.key name :: path) base = table none
      (putMember name (putAt t path ((base.members.lookup name).getD empty)) base.members) := by
  cases path with
  | nil => exact absurd rfl h
  | cons step path => rfl

theorem isInner_putAt {path : Path} (h : path ≠ []) (t base : Tree) :
    (putAt t path base).isInner = true := by
  match path, h with
  | [.key name], _ => rfl
  | [.index n], _ => rfl
  | .key name :: step :: path, _ => rfl
  | .index n :: step :: path, _ => rfl

/-- Of the members, only the one at the head of the path is another. -/
theorem lookup_putAt_key_of_ne {name other : String} (h : other ≠ name) (path : Path)
    (t base : Tree) :
    (putAt t (.key name :: path) base).members.lookup other = base.members.lookup other := by
  cases path with
  | nil => exact lookup_putMember_of_ne h _ _
  | cons step path => exact lookup_putMember_of_ne h _ _

/-- A value is found where it was laid. -/
theorem find?_putAt_self (origin : Option String) (value : Scalar) (names : List String)
    (base : Tree) :
    (putAt (scalar origin value) (names.map .key) base).find? names =
      some (scalar origin value) := by
  induction names generalizing base with
  | nil => rfl
  | cons name names ih =>
    cases names with
    | nil =>
      change ((putMember name (scalar origin value) base.members).lookup name).bind some = _
      rw [lookup_putMember_self, Option.bind_some]
    | cons next names =>
      rw [List.map_cons, putAt_key_of_ne_nil (by simp), find?, members, lookup_putMember_self,
        Option.bind_some]
      exact ih _

end Tree

/-- A value at the path would stand in place of what stands under the names: it stops on the way
there, or makes a list of a table on the way. -/
def Path.displaces : Path → List String → Bool
  | [], _ => true
  | _ :: _, [] => false
  | .key k :: path, name :: names => k = name && displaces path names
  | .index _ :: _, _ :: _ => true

namespace Tree

/-- What is found under names stays, or becomes a tree with places for others. -/
theorem find?_putAt_of_not_displaces {path : Path} (hbeside : path.displaces names = false)
    (hfound : base.find? names = some u) (t : Tree) :
    (putAt t path base).find? names = some u ∨
      ∃ v, (putAt t path base).find? names = some v ∧ v.isInner = true := by
  induction names generalizing path base with
  | nil =>
    refine .inr ⟨putAt t path base, rfl, isInner_putAt ?_ t base⟩
    rintro rfl
    cases hbeside
  | cons name names ih =>
    rw [find?, Option.bind_eq_some_iff] at hfound
    obtain ⟨child, hchild, hfound⟩ := hfound
    match path, hbeside with
    | .key k :: path, hbeside =>
      by_cases hk : k = name
      · subst hk
        have hbelow : Path.displaces path names = false := by
          simpa [Path.displaces] using hbeside
        have hpath : path ≠ [] := by
          rintro rfl
          simp [Path.displaces] at hbelow
        rw [find?, putAt_key_of_ne_nil hpath, members, lookup_putMember_self, Option.bind_some,
          hchild, Option.getD_some]
        exact ih hbelow hfound
      · rw [find?, lookup_putAt_key_of_ne (Ne.symm hk), hchild]
        exact .inl hfound

def Settled (base : Tree) (names : List String) (value : Tree) : Prop :=
  ∃ u, base.find? names = some u ∧ (u = value ∨ u.isInner = true)

theorem Settled.putAt {value : Tree} (h : base.Settled names value) {path : Path}
    (hbeside : path.displaces names = false) (t : Tree) :
    (putAt t path base).Settled names value := by
  obtain ⟨u, hfound, hu⟩ := h
  obtain hstays | ⟨v, hbecomes, hv⟩ := find?_putAt_of_not_displaces hbeside hfound t
  · exact ⟨u, hstays, hu⟩
  · exact ⟨v, hbecomes, .inr hv⟩

/-- Of several values laid one after the other, one that no other displaces ends up in its
place. The induction goes back from the last one. -/
theorem settled_lay {origin : Option String} {value : Scalar} {key : String}
    {ms : List (String × Tree)} (hkey : Path.ofKey key = names.map .key)
    (hmem : (key, scalar origin value) ∈ ms)
    (halone : ∀ m ∈ ms, (Path.ofKey m.1).displaces names = true →
      m = (key, scalar origin value)) (base : Tree) :
    (base.lay ms).Settled names (scalar origin value) := by
  induction ms using List.reverseRecOn with
  | nil => exact absurd hmem List.not_mem_nil
  | append_singleton ms m ih =>
    have hlay : base.lay (ms ++ [m]) = Tree.putAt m.2 (Path.ofKey m.1) (base.lay ms) :=
      List.foldl_append
    rw [hlay]
    by_cases hm : m = (key, scalar origin value)
    · refine ⟨_, ?_, .inl rfl⟩
      rw [hm, hkey]
      exact find?_putAt_self origin value names _
    · have hearlier : (key, scalar origin value) ∈ ms := by
        obtain hms | hlast := List.mem_append.mp hmem
        · exact hms
        · exact absurd (List.mem_singleton.mp hlast).symm hm
      have hbeside : (Path.ofKey m.1).displaces names = false :=
        Bool.eq_false_iff.mpr fun hover => hm (halone m (by simp) hover)
      exact (ih hearlier fun m hms => halone m (List.mem_append_left _ hms)).putAt hbeside m.2

end Tree

end ParcelDesk.Settings
