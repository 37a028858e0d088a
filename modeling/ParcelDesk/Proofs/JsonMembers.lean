import ParcelDesk.Proofs.JsonRecords

/-!
What a record takes from an object. Only the members under the names of its fields count, wherever
they stand, and none of them stands there twice; all others are passed over. So two objects that
agree under these names hold the same value, if they hold one.
-/

namespace ParcelDesk

variable {α β ε : Type}

/-- Both halves of a sequence that succeeds succeed. -/
theorem of_bind_ok {x : Except ε α} {f : α → Except ε β} {b : β} (h : x >>= f = .ok b) :
    ∃ a, x = .ok a ∧ f a = .ok b := by
  cases x with
  | error e => cases h
  | ok a => exact ⟨a, rfl, h⟩

theorem of_map_ok {x : Except ε α} {f : α → β} {b : β} (h : x.map f = .ok b) :
    ∃ a, x = .ok a ∧ f a = b := by
  cases x with
  | error e => cases h
  | ok a => exact ⟨a, rfl, Except.ok.inj h⟩

namespace Json

theorem of_lift {x : Except Misread α} {a : α} (h : lift x = .ok a) : x = .ok a := by
  cases x with
  | error m => cases h
  | ok b => exact congrArg Except.ok (Except.ok.inj h)

theorem of_flawless {flaw : Option Misread} {u : Unit} (h : flawless flaw = .ok u) :
    flaw = none := by
  cases flaw with
  | none => rfl
  | some m => cases h

theorem eq_closed_of_mapFlaw? {ending : Ending} (h : ending.mapFlaw? = none) :
    ending = .closed := by
  cases ending <;> simp [Ending.mapFlaw?] at h ⊢

def member? (ms : List (Literal × Node)) (name : String) : Option Node :=
  (ms.find? fun m => m.1.text.toOption == some name).map Prod.snd

def membersNamed (ms : List (Literal × Node)) (name : String) : List Node :=
  (ms.filter fun m => m.1.text.toOption == some name).map Prod.snd

theorem head?_membersNamed (ms : List (Literal × Node)) (name : String) :
    (membersNamed ms name).head? = member? ms name := by
  rw [membersNamed, member?, List.head?_map, List.head?_filter]

theorem membersNamed_cons_self {k : Literal} {name : String} (h : k.text = .ok name) (n : Node)
    (ms : List (Literal × Node)) :
    membersNamed ((k, n) :: ms) name = n :: membersNamed ms name := by
  simp [membersNamed, h, Except.toOption]

theorem membersNamed_cons_of_ne {k : Literal} {known name : String} (h : k.text = .ok known)
    (hne : known ≠ name) (n : Node) (ms : List (Literal × Node)) :
    membersNamed ((k, n) :: ms) name = membersNamed ms name := by
  simp [membersNamed, h, Except.toOption, hne]

theorem member?_append (ms ns : List (Literal × Node)) (name : String) :
    member? (ms ++ ns) name = (member? ms name).or (member? ns name) := by
  rw [member?, List.find?_append, Option.map_or]
  rfl

namespace Record

variable {fields : List Field} {given kept : List (String × Node)} {k : Literal} {n : Node}
  {ms : List (Literal × Node)} {name : String}

/-- What going through one more member does: it is checked and kept under its name, or passed
over. -/
theorem collect_cons (h : collect fields given ((k, n) :: ms) = .ok kept) :
    ∃ known, k.text = .ok known ∧
      ((known ∈ fields.map Field.name ∧ given.lookup known = none ∧
          (∃ f ∈ fields, f.check n = .ok ()) ∧ collect fields ((known, n) :: given) ms = .ok kept) ∨
        (known ∉ fields.map Field.name ∧ n.passedFlaw? = none ∧
          collect fields given ms = .ok kept)) := by
  rw [collect] at h
  obtain ⟨known, hname, h⟩ := of_bind_ok h
  refine ⟨known, of_lift hname, ?_⟩
  split at h
  · rename_i f hfound
    have hmem : f ∈ fields := List.mem_of_find?_eq_some hfound
    have hsame : f.name = known := by simpa using List.find?_some hfound
    left
    split at h
    · cases h
    · rename_i hnew
      obtain ⟨u, hcheck, h⟩ := of_bind_ok h
      exact ⟨hsame ▸ List.mem_map_of_mem hmem, Option.not_isSome_iff_eq_none.mp hnew,
        ⟨f, hmem, hcheck⟩, h⟩
  · rename_i hfound
    right
    obtain ⟨u, hflaw, h⟩ := of_bind_ok h
    refine ⟨?_, of_flawless hflaw, h⟩
    rw [List.mem_map]
    rintro ⟨f, hmem, hsame⟩
    have hother := List.find?_eq_none.mp hfound f hmem
    exact hother (by simp [hsame])

/-- The members under a known name are what was not given before and is kept in the end, so there is
one at most. The induction is on the members that are still to come. -/
theorem membersNamed_of_collect (h : collect fields given ms = .ok kept)
    (hknown : name ∈ fields.map Field.name) :
    (given.lookup name).toList ++ membersNamed ms name = (kept.lookup name).toList := by
  induction ms generalizing given with
  | nil =>
    obtain rfl := Except.ok.inj h
    exact List.append_nil _
  | cons m ms ih =>
    obtain ⟨k, n⟩ := m
    obtain ⟨known, hname, ⟨-, hnew, -, hrest⟩ | ⟨hunknown, -, hrest⟩⟩ := collect_cons h
    · rw [← ih hrest]
      by_cases hsame : known = name
      · subst known
        rw [List.lookup_cons_self, hnew, membersNamed_cons_self hname]
        rfl
      · rw [membersNamed_cons_of_ne hname hsame, List.lookup_cons,
          beq_false_of_ne (Ne.symm hsame)]
    · have hne : known ≠ name := fun hsame => hunknown (hsame ▸ hknown)
      rw [← ih hrest, membersNamed_cons_of_ne hname hne]

theorem membersNamed_of_lookup (h : collect fields [] ms = .ok kept)
    (hknown : name ∈ fields.map Field.name) {found : Option Node}
    (hfound : kept.lookup name = found) : membersNamed ms name = found.toList := by
  rw [← hfound, ← membersNamed_of_collect h hknown]
  rfl

/-- Kept under a name is the first member under it. -/
theorem lookup_of_collect (h : collect fields [] ms = .ok kept)
    (hknown : name ∈ fields.map Field.name) : kept.lookup name = member? ms name := by
  rw [← head?_membersNamed, membersNamed_of_lookup h hknown rfl, Option.head?_toList]

/-- Nothing is kept under a name that is no field's. -/
theorem lookup_of_collect_unknown (h : collect fields given ms = .ok kept)
    (hunknown : name ∉ fields.map Field.name) : kept.lookup name = given.lookup name := by
  induction ms generalizing given with
  | nil =>
    obtain rfl := Except.ok.inj h
    rfl
  | cons m ms ih =>
    obtain ⟨k, n⟩ := m
    obtain ⟨known, -, ⟨hknown, -, -, hrest⟩ | ⟨-, -, hrest⟩⟩ := collect_cons h
    · have hne : name ≠ known := fun hsame => hunknown (hsame ▸ hknown)
      rw [ih hrest, List.lookup_cons, beq_false_of_ne hne]
    · exact ih hrest

variable {title : String} {r : Record α}

theorem of_decode_map {ending : Ending} {a : α} (h : decode title r (.map ms ending) = .ok a) :
    ∃ kept, collect r.fields [] ms = .ok kept ∧ ending = .closed ∧
      r.build (fun name => kept.lookup name) = .ok a := by
  obtain ⟨kept, hkept, h⟩ := of_bind_ok h
  obtain ⟨u, hending, h⟩ := of_bind_ok h
  exact ⟨kept, hkept, eq_closed_of_mapFlaw? (of_flawless hending), h⟩

/-- Objects that agree under the names of the fields do not hold different values. -/
theorem eq_of_decode_map {ns : List (Literal × Node)} {e f : Ending} {a b : α}
    (hagree : ∀ name ∈ r.fields.map Field.name, member? ms name = member? ns name)
    (ha : decode title r (.map ms e) = .ok a) (hb : decode title r (.map ns f) = .ok b) :
    a = b := by
  obtain ⟨xs, hxs, -, ha⟩ := of_decode_map ha
  obtain ⟨ys, hys, -, hb⟩ := of_decode_map hb
  have hsame : (fun name => xs.lookup name) = fun name => ys.lookup name := by
    funext name
    by_cases hknown : name ∈ r.fields.map Field.name
    · rw [lookup_of_collect hxs hknown, lookup_of_collect hys hknown, hagree name hknown]
    · rw [lookup_of_collect_unknown hxs hknown, lookup_of_collect_unknown hys hknown]
  rw [hsame] at ha
  exact Except.ok.inj (ha.symm.trans hb)

end Record

/-- A value that is taken from a document is that of its root, and nothing follows it. -/
theorem of_parseBytes {decoder : Decoder α} {bs : List UInt8} {a : α}
    (h : parseBytes decoder bs = .ok a) :
    decoder (readBytes bs).root = .ok a ∧ (readBytes bs).surplus = false := by
  obtain ⟨b, hb, h⟩ := of_bind_ok h
  split at h
  · cases h
  · rename_i hsurplus
    exact ⟨hb.trans h, by simpa using hsurplus⟩

end Json

end ParcelDesk
