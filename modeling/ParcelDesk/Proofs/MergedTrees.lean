import ParcelDesk.Proofs.LaidTrees

/-!
What a source says about a place, and what stands there once the source was laid over a tree. A
source is laid key by key, so what it says is what stands there then, and if it says nothing, what
stood there before still does. The exceptions are sources that obstruct the place: they put a value
or a list where a table leads to it, or set single items in it.
-/

namespace ParcelDesk.Settings

namespace Tree

def isVoid : Tree → Bool
  | table _ [] => true
  | _ => false

def tells? (names : List String) (t : Tree) : Option Tree :=
  (t.find? names).filter fun u => !u.isVoid

/-- A value laid over the tree keeps others from standing under the names. -/
def obstructs : List String → Tree → Bool
  | [], _ => false
  | name :: names, table _ ms => ms.any fun m => m.1 = name && obstructs names m.2
  | _ :: _, _ => true

end Tree

def Path.obstructs (t : Tree) : Path → List String → Bool
  | [], names => t.obstructs names
  | .index _ :: _, _ => true
  | .key _ :: _, [] => false
  | .key k :: path, name :: names => k = name && Path.obstructs t path names

namespace Tree

/-- What a source says is seen in what stands there in the end: it is the same, or both are tables,
and all of the source's members are there. -/
inductive SeenIn : Tree → Tree → Prop
  | same {t : Tree} (h : ∀ origin ms, t ≠ table origin ms) : SeenIn t t
  | members {origin origin' : Option String} {said found : List (String × Tree)}
      (hsome : said ≠ []) (hnodup : (said.map Prod.fst).Nodup)
      (hsub : said.map Prod.fst ⊆ found.map Prod.fst) :
      SeenIn (table origin said) (table origin' found)

/-- Under the names stands what the source says, or else what was there before. -/
structure Carries (names : List String) (source merged before : Option Tree) : Prop where
  silent : source.bind (tells? names) = none →
    merged.bind (tells? names) = before.bind (tells? names)
  said : ∀ t, source.bind (tells? names) = some t →
    ∃ u, merged.bind (tells? names) = some u ∧ SeenIn t u

section Members

variable {name k : String} {t : Tree} {ms below : List (String × Tree)}

theorem mem_keys_putMember :
    k ∈ (putMember name t ms).map Prod.fst ↔ k = name ∨ k ∈ ms.map Prod.fst := by
  induction ms with
  | nil => simp [putMember]
  | cons m ms ih =>
    obtain ⟨key, old⟩ := m
    unfold putMember
    by_cases hkey : key = name
    · subst hkey
      simp
    · rw [if_neg hkey, List.map_cons, List.mem_cons, List.map_cons, List.mem_cons, ih]
      exact or_left_comm

theorem nodup_keys_putMember (h : (ms.map Prod.fst).Nodup) :
    ((putMember name t ms).map Prod.fst).Nodup := by
  induction ms with
  | nil => simp [putMember]
  | cons m ms ih =>
    obtain ⟨key, old⟩ := m
    rw [List.map_cons, List.nodup_cons] at h
    unfold putMember
    by_cases hkey : key = name
    · rw [if_pos hkey, List.map_cons, List.nodup_cons]
      exact h
    · rw [if_neg hkey, List.map_cons, List.nodup_cons]
      refine ⟨?_, ih h.2⟩
      intro hmem
      rcases mem_keys_putMember.mp hmem with hname | hold
      · exact hkey hname
      · exact h.1 hold

theorem putMember_ne_nil : putMember name t ms ≠ [] := by
  cases ms with
  | nil => simp [putMember]
  | cons m ms =>
    obtain ⟨key, old⟩ := m
    unfold putMember
    split <;> simp

theorem mem_keys_coverMembers :
    k ∈ (coverMembers ms below).map Prod.fst ↔ k ∈ ms.map Prod.fst ∨ k ∈ below.map Prod.fst := by
  induction ms generalizing below with
  | nil => simp [coverMembers]
  | cons m ms ih =>
    obtain ⟨key, value⟩ := m
    rw [coverMembers, ih, mem_keys_putMember, List.map_cons, List.mem_cons]
    tauto

theorem nodup_keys_coverMembers (h : (below.map Prod.fst).Nodup) :
    ((coverMembers ms below).map Prod.fst).Nodup := by
  induction ms generalizing below with
  | nil =>
    rw [coverMembers]
    exact h
  | cons m ms ih =>
    obtain ⟨key, value⟩ := m
    rw [coverMembers]
    exact ih (nodup_keys_putMember h)

theorem coverMembers_ne_nil (h : ms ≠ []) : coverMembers ms below ≠ [] := by
  induction ms generalizing below with
  | nil => exact absurd rfl h
  | cons m ms ih =>
    obtain ⟨key, value⟩ := m
    rw [coverMembers]
    cases ms with
    | nil =>
      rw [coverMembers]
      exact putMember_ne_nil
    | cons next ms => exact ih (by simp)

end Members

section Places

variable {names : List String} {name : String}

theorem tells?_cons (t : Tree) :
    t.tells? (name :: names) = (t.members.lookup name).bind (tells? names) := by
  unfold tells?
  rw [find?]
  cases t.members.lookup name <;> rfl

@[simp]
theorem tells?_empty : tells? names empty = none := by
  cases names with
  | nil => rfl
  | cons name names => rfl

theorem bind_tells?_getD (o : Option Tree) :
    (some (o.getD empty)).bind (tells? names) = o.bind (tells? names) := by
  cases o with
  | none => exact tells?_empty
  | some t => rfl

def membersOf (o : Option Tree) : List (String × Tree) := (o.map members).getD []

theorem membersOf_table (origin : Option String) (ms : List (String × Tree)) :
    membersOf (some (table origin ms)) = ms := rfl

theorem bind_tells?_cons (o : Option Tree) :
    o.bind (tells? (name :: names)) = ((membersOf o).lookup name).bind (tells? names) := by
  cases o with
  | none => rfl
  | some t => exact tells?_cons t

variable {source merged before : Option Tree}

theorem carries_cons : Carries (name :: names) source merged before ↔
    Carries names ((membersOf source).lookup name) ((membersOf merged).lookup name)
      ((membersOf before).lookup name) := by
  constructor
  · rintro ⟨hsilent, hsaid⟩
    simp only [bind_tells?_cons] at hsilent hsaid
    exact ⟨hsilent, hsaid⟩
  · rintro ⟨hsilent, hsaid⟩
    constructor
    · simp only [bind_tells?_cons]
      exact hsilent
    · simp only [bind_tells?_cons]
      exact hsaid

theorem Carries.getD (h : Carries names source merged before) :
    Carries names (some (source.getD empty)) (some (merged.getD empty)) before := by
  constructor
  · rw [bind_tells?_getD, bind_tells?_getD]
    exact h.silent
  · rw [bind_tells?_getD, bind_tells?_getD]
    exact h.said

/-- The members that a source has at a place are there in the end. -/
theorem Carries.keys (h : Carries [] source merged before) :
    ((membersOf source).map Prod.fst).Nodup ∧
      (membersOf source).map Prod.fst ⊆ (membersOf merged).map Prod.fst := by
  match source with
  | none | some (scalar _ _) | some (list _ _) | some (table _ []) =>
    exact ⟨List.nodup_nil, List.nil_subset _⟩
  | some (table origin (m :: ms)) =>
    obtain ⟨u, hu, hseen⟩ := h.said (table origin (m :: ms)) rfl
    have hmerged : merged = some u := by
      rw [Option.bind_eq_some_iff] at hu
      obtain ⟨t, ht, hu⟩ := hu
      rw [ht, (Option.filter_eq_some_iff.mp hu).1.symm]
      rfl
    subst hmerged
    cases hseen with
    | same hscalar => exact absurd rfl (hscalar _ _)
    | members hsome hnodup hsub => exact ⟨hnodup, hsub⟩

/-- Two tables of which the source's has some members and the other has them too. -/
theorem carries_tables {origin origin' : Option String} {said found : List (String × Tree)}
    (hsome : said ≠ []) (hnodup : (said.map Prod.fst).Nodup)
    (hsub : said.map Prod.fst ⊆ found.map Prod.fst) (before : Option Tree) :
    Carries [] (some (table origin said)) (some (table origin' found)) before := by
  have htells {origin : Option String} {ms : List (String × Tree)} (h : ms ≠ []) :
      (some (table origin ms)).bind (tells? []) = some (table origin ms) := by
    cases ms with
    | nil => exact absurd rfl h
    | cons m ms => rfl
  have hfound : found ≠ [] := by
    rintro rfl
    exact hsome (List.map_eq_nil_iff.mp (List.subset_nil.mp hsub))
  constructor
  · intro hsilent
    rw [htells hsome] at hsilent
    cases hsilent
  · intro t ht
    rw [htells hsome] at ht
    obtain rfl := Option.some.inj ht
    exact ⟨_, htells hfound, .members hsome hnodup hsub⟩

/-- What is no table is seen as it is. -/
theorem carries_same {t : Tree} (h : ∀ origin ms, t ≠ table origin ms) (before : Option Tree) :
    Carries [] (some t) (some t) before := by
  have htells : (some t).bind (tells? []) = some t := by
    cases t with
    | table origin ms => exact absurd rfl (h origin ms)
    | scalar origin value => rfl
    | list origin ts => rfl
  constructor
  · intro hsilent
    rw [htells] at hsilent
    cases hsilent
  · intro u hu
    rw [htells] at hu
    obtain rfl := Option.some.inj hu
    exact ⟨t, htells, .same h⟩

end Places

section Laying

variable {names : List String} {name : String} {source merged before : Option Tree}

theorem cover_cons (o : Option Tree) (origin : Option String) (m : String × Tree)
    (ms : List (String × Tree)) :
    cover o (table origin (m :: ms)) = table none (coverMembers (m :: ms) (membersOf o)) := by
  rw [cover]
  · rfl
  · exact List.cons_ne_nil m ms

/-- Of the members laid over a table, one name sees only those by this name. -/
theorem carries_coverMembers
    (hcover : ∀ {t : Tree} {source merged : Option Tree}, t.obstructs names = false →
      Carries names source merged before →
      Carries names (some (cover source t)) (some (cover merged t)) before)
    {ms : List (String × Tree)} (hms : ∀ m ∈ ms, m.1 = name → m.2.obstructs names = false)
    {below above : List (String × Tree)}
    (h : Carries names (below.lookup name) (above.lookup name) before) :
    Carries names ((coverMembers ms below).lookup name) ((coverMembers ms above).lookup name)
      before := by
  induction ms generalizing below above with
  | nil =>
    rw [coverMembers, coverMembers]
    exact h
  | cons m ms ih =>
    obtain ⟨k, t⟩ := m
    rw [coverMembers, coverMembers]
    apply ih (fun m hm => hms m (List.mem_cons_of_mem _ hm))
    by_cases hk : k = name
    · subst hk
      rw [lookup_putMember_self, lookup_putMember_self]
      exact hcover (hms (k, t) List.mem_cons_self rfl) h
    · rw [lookup_putMember_of_ne (Ne.symm hk), lookup_putMember_of_ne (Ne.symm hk)]
      exact h

/-- What a source says is carried on when one more value is laid over both. The induction is on the
names: a value that does not obstruct them is a table as long as there are any. -/
theorem Carries.cover {t : Tree} (ht : t.obstructs names = false)
    (h : Carries names source merged before) :
    Carries names (some (cover source t)) (some (cover merged t)) before := by
  induction names generalizing t source merged before with
  | nil =>
    match t with
    | scalar origin value => exact carries_same (t := scalar origin value) (by simp) before
    | list origin ts => exact carries_same (t := list origin ts) (by simp) before
    | table origin [] => exact h.getD
    | table origin (m :: ms) =>
      obtain ⟨hnodup, hsub⟩ := h.keys
      rw [cover_cons, cover_cons]
      apply carries_tables (coverMembers_ne_nil (List.cons_ne_nil m ms))
        (nodup_keys_coverMembers hnodup)
      intro k hk
      rw [mem_keys_coverMembers] at hk ⊢
      exact hk.imp_right fun hold => hsub hold
  | cons name names ih =>
    match t with
    | scalar origin value => cases ht
    | list origin ts => cases ht
    | table origin [] => exact h.getD
    | table origin (m :: ms) =>
      rw [cover_cons, cover_cons, carries_cons]
      rw [carries_cons] at h
      apply carries_coverMembers ih ?_ h
      intro m' hm' hname
      simp only [obstructs, List.any_eq_false] at ht
      simpa [hname] using ht m' hm'

/-- A place below a member is reached through the member. -/
theorem putAt_key (t : Tree) (k : String) (path : Path) (base : Tree) :
    putAt t (.key k :: path) base = table none
      (putMember k (putAt t path ((base.members.lookup k).getD empty)) base.members) := by
  cases path with
  | cons step path => exact putAt_key_of_ne_nil (List.cons_ne_nil step path) k t base
  | nil =>
    have hsame (o : Option Tree) : cover (some (o.getD empty)) t = cover o t := by
      cases o with
      | some old => rfl
      | none =>
        match t with
        | scalar origin value | list origin ts | table origin [] => rfl
        | table origin (m :: ms) =>
          rw [cover_cons, cover_cons]
          rfl
    rw [putAt, putAt, hsame]

theorem Carries.putAt {t : Tree} {path : Path} {source merged : Tree}
    (hpath : path.obstructs t names = false)
    (h : Carries names (some source) (some merged) before) :
    Carries names (some (putAt t path source)) (some (putAt t path merged)) before := by
  induction path generalizing names source merged before with
  | nil => exact h.cover hpath
  | cons step path ih =>
    cases step with
    | index n => cases hpath
    | key k =>
      rw [putAt_key, putAt_key]
      cases names with
      | nil =>
        obtain ⟨hnodup, hsub⟩ := h.keys
        apply carries_tables putMember_ne_nil (nodup_keys_putMember hnodup)
        intro name hname
        rw [mem_keys_putMember] at hname ⊢
        exact hname.imp_right fun hold => hsub hold
      | cons name names =>
        rw [carries_cons] at h ⊢
        by_cases hk : k = name
        · subst hk
          have hbelow : Path.obstructs t path names = false := by
            simpa [Path.obstructs] using hpath
          rw [membersOf_table, membersOf_table, lookup_putMember_self, lookup_putMember_self]
          exact ih hbelow h.getD
        · rw [membersOf_table, membersOf_table, lookup_putMember_of_ne (Ne.symm hk),
            lookup_putMember_of_ne (Ne.symm hk)]
          exact h

theorem carries_lay {source merged : Tree} {ms : List (String × Tree)}
    (hms : ∀ m ∈ ms, (Path.ofKey m.1).obstructs m.2 names = false)
    (h : Carries names (some source) (some merged) before) :
    Carries names (some (source.lay ms)) (some (merged.lay ms)) before := by
  induction ms generalizing source merged with
  | nil => exact h
  | cons m ms ih =>
    apply ih (fun m hm => hms m (List.mem_cons_of_mem _ hm))
    exact h.putAt (hms m List.mem_cons_self)

def ofMembers (ms : List (String × Tree)) : Tree := empty.lay ms

/-- When a source is laid over a tree, and none of its members obstructs a place, then what the
source says stands there, or else what stood there before. -/
theorem carries_ofMembers {ms : List (String × Tree)}
    (hms : ∀ m ∈ ms, (Path.ofKey m.1).obstructs m.2 names = false) (base : Tree) :
    Carries names (some (ofMembers ms)) (some (base.lay ms)) (some base) := by
  apply carries_lay hms
  constructor
  · exact fun _ => rfl
  · intro t ht
    have hnothing : tells? names empty = some t := ht
    rw [tells?_empty] at hnothing
    cases hnothing

/-- Several sources laid over a tree, the first of them last. -/
def layAll (base : Tree) (sources : List (List (String × Tree))) : Tree :=
  sources.foldr (fun ms t => t.lay ms) base

def firstTold? (names : List String) (sources : List (List (String × Tree))) : Option Tree :=
  sources.findSome? fun ms => (ofMembers ms).tells? names

/-- Of the sources down to the first one that says anything, some source obstructs the place. -/
def obstructedBy (names : List String) : List (List (String × Tree)) → Bool
  | [] => false
  | ms :: sources =>
    (ms.any fun m => (Path.ofKey m.1).obstructs m.2 names) ||
      (((ofMembers ms).tells? names).isNone && obstructedBy names sources)

/-- Of several sources laid over a tree, the first one that says anything about a place is seen
there, unless one down to it obstructs the place; if none says anything, what stood there in the
tree still does. -/
theorem tells?_layAll {sources : List (List (String × Tree))}
    (h : obstructedBy names sources = false) (base : Tree) :
    (∀ t, firstTold? names sources = some t →
      ∃ u, (base.layAll sources).tells? names = some u ∧ SeenIn t u) ∧
    (firstTold? names sources = none → (base.layAll sources).tells? names = base.tells? names) := by
  induction sources with
  | nil =>
    refine ⟨?_, fun _ => rfl⟩
    intro t ht
    cases ht
  | cons ms sources ih =>
    rw [obstructedBy, Bool.or_eq_false_iff, List.any_eq_false] at h
    obtain ⟨hms, hbelow⟩ := h
    have hcarries := carries_ofMembers (fun m hm => Bool.eq_false_iff.mpr (hms m hm))
      (base.layAll sources)
    unfold firstTold? at ih ⊢
    rw [List.findSome?_cons]
    cases htells : (ofMembers ms).tells? names with
    | some t =>
      refine ⟨?_, fun hsilent => by cases hsilent⟩
      intro t' ht'
      obtain rfl := Option.some.inj ht'
      exact hcarries.said t htells
    | none =>
      rw [htells, Option.isNone_none, Bool.true_and] at hbelow
      have hsame : (base.layAll (ms :: sources)).tells? names =
          (base.layAll sources).tells? names := hcarries.silent htells
      rw [hsame]
      exact ih hbelow

end Laying

end Tree

end ParcelDesk.Settings
