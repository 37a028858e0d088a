import ParcelDesk.Proofs.JsonMembers

/-!
What decoders accept. A value is only taken from a node without any flaw, down to the parts that the
decoder passes over, so a document that holds a record is well-formed JSON. The members of the
record's fields stand in it once, or, where the record is written as a list, in their places.
-/

namespace ParcelDesk.Json

variable {α β : Type}

theorem mismatch_ne_ok {n : Node} {expected : String} {a : α} : mismatch n expected ≠ .ok a := by
  intro h
  obtain ⟨found, -, h⟩ := of_bind_ok h
  cases h

theorem eq_closed_of_listFlaw? {e : Ending} (h : e.listFlaw? = none) : e = .closed := by
  cases e <;> simp [Ending.listFlaw?] at h ⊢

theorem eq_closed_of_listSurplus? {e : Ending} (h : e.listSurplus? = none) : e = .closed := by
  cases e <;> simp [Ending.listSurplus?] at h ⊢

theorem flaw?_of_piecesText {ending : LiteralEnd} {ps : List Piece} {cs : List (Option Char)}
    (h : piecesText ending ps = .ok cs) : ending.flaw? = none := by
  fun_induction piecesText ending ps generalizing cs with
  | case2 hnone => exact hnone
  | case3 c rest ih | case4 rest ih | case6 u _ _ v rest _ ih | case10 u rest _ _ ih =>
    obtain ⟨_, hrest, -⟩ := of_map_ok h
    exact ih hrest
  | case1 | case5 | case7 | case8 | case9 => cases h

/-- A literal with a text has ended well. -/
theorem flaw?_of_text {l : Literal} {s : String} (h : l.text = .ok s) : l.ending.flaw? = none := by
  obtain ⟨cs, hcs, -⟩ := of_bind_ok h
  exact flaw?_of_piecesText hcs

mutual
/-- A node that holds a value has no flaw. The recursion follows that of the value. -/
theorem passedFlaw?_of_value : ∀ {n : Node} {v : Json}, value n = .ok v → n.passedFlaw? = none
  | .null, _, _ | .bool _, _, _ | .number _, _, _ => by rw [Node.passedFlaw?] <;> simp
  | .text l, _, h => by
    rw [value] at h
    obtain ⟨s, hs, -⟩ := of_map_ok h
    exact flaw?_of_text (of_lift hs)
  | .list ns ending, _, h => by
    rw [value] at h
    obtain ⟨vs, hvs, h⟩ := of_bind_ok h
    obtain ⟨u, hending, -⟩ := of_bind_ok h
    obtain rfl := eq_closed_of_listFlaw? (of_flawless hending)
    rw [Node.passedFlaw?, itemsFlaw?_of_values hvs]
    rfl
  | .map ms ending, _, h => by
    rw [value] at h
    obtain ⟨vs, hvs, h⟩ := of_bind_ok h
    obtain ⟨u, hending, -⟩ := of_bind_ok h
    obtain rfl := eq_closed_of_mapFlaw? (of_flawless hending)
    rw [Node.passedFlaw?, membersFlaw?_of_memberValues hvs]
    rfl
  | .broken _ _, _, h => by
    rw [value] at h
    cases h
theorem itemsFlaw?_of_values : ∀ {ns : List Node} {vs : List Json}, values ns = .ok vs →
    Node.itemsFlaw? ns = none
  | [], _, _ => by rw [Node.itemsFlaw?]
  | n :: ns, _, h => by
    rw [values] at h
    obtain ⟨v, hv, h⟩ := of_bind_ok h
    obtain ⟨vs, hvs, -⟩ := of_bind_ok h
    rw [Node.itemsFlaw?, passedFlaw?_of_value hv, itemsFlaw?_of_values hvs]
    rfl
theorem membersFlaw?_of_memberValues : ∀ {ms : List (Literal × Node)} {vs : List (String × Json)},
    memberValues ms = .ok vs → Node.membersFlaw? ms = none
  | [], _, _ => by rw [Node.membersFlaw?]
  | (k, n) :: ms, _, h => by
    rw [memberValues] at h
    obtain ⟨key, hkey, h⟩ := of_bind_ok h
    obtain ⟨v, hv, h⟩ := of_bind_ok h
    obtain ⟨vs, hvs, -⟩ := of_bind_ok h
    rw [Node.membersFlaw?, flaw?_of_text (of_lift hkey), passedFlaw?_of_value hv,
      membersFlaw?_of_memberValues hvs]
    rfl
end

theorem value_of_string {n : Node} {s : String} (h : string n = .ok s) :
    value n = .ok (.str s) := by
  cases n with
  | text l =>
    rw [value, show lift l.text = .ok s from h]
    rfl
  | _ => exact absurd h mismatch_ne_ok

structure Fits (n : Int) : Prop where
  lower : -0x8000000000000000 ≤ n
  upper : n < 0x8000000000000000

theorem of_int64 {n : Node} {i : Int} (h : int64 n = .ok i) : value n = .ok (.int i) ∧ Fits i := by
  cases n with
  | number x =>
    rw [int64, integer] at h
    obtain ⟨y, hy, h⟩ := of_bind_ok h
    cases y with
    | real x => cases h
    | int j =>
      simp only at h
      split at h
      · rename_i hwithin
        obtain rfl := Except.ok.inj h
        simp only [Bool.and_eq_true, decide_eq_true_eq] at hwithin
        refine ⟨?_, by omega, by omega⟩
        rw [value, hy]
        rfl
      · cases h
  | _ => exact absurd h mismatch_ne_ok

theorem of_value_int {n : Node} {i : Int} (h : value n = .ok (.int i)) :
    ∃ x, n = .number x ∧ x.number = .ok (.int i) := by
  cases n with
  | number x =>
    rw [value] at h
    obtain ⟨y, hy, h⟩ := of_bind_ok h
    cases y with
    | int j =>
      obtain rfl := Json.int.inj (Except.ok.inj h)
      exact ⟨x, rfl, of_lift hy⟩
    | real x => cases h
  | text l =>
    rw [value] at h
    obtain ⟨s, -, h⟩ := of_map_ok h
    cases h
  | list ns ending | map ms ending =>
    rw [value] at h
    obtain ⟨vs, -, h⟩ := of_bind_ok h
    obtain ⟨u, -, h⟩ := of_bind_ok h
    cases h
  | null | bool b | broken read passed =>
    rw [value] at h
    cases h

theorem of_nothing {n : Node} {u : Unit} (h : nothing n = .ok u) : n = .null := by
  cases n with
  | null => rfl
  | _ => exact absurd h mismatch_ne_ok

theorem of_variant {variants : List (String × α)} {name : String} {a : α}
    (h : variant variants name = .ok a) : variants.lookup name = some a := by
  rw [variant] at h
  split at h
  · rename_i b hb
    rw [hb, Except.ok.inj h]
  · cases h

/-- The value is a name: a text, or an object that maps the name to null. -/
def Names (name : String) (v : Json) : Prop := v = .str name ∨ v = .obj [(name, .null)]

theorem of_oneNamed {variants : List (String × α)} {n : Node} {a : α}
    (h : oneNamed variants n = .ok a) :
    ∃ name v, variants.lookup name = some a ∧ value n = .ok v ∧ Names name v := by
  cases n with
  | text l =>
    obtain ⟨name, hname, h⟩ := of_bind_ok h
    refine ⟨name, .str name, of_variant h, ?_, .inl rfl⟩
    rw [value, hname]
    rfl
  | map ms ending =>
    match ms, ending with
    | [], .notKey seen =>
      obtain ⟨found, -, h⟩ := of_bind_ok h
      cases h
    | (k, x) :: more, ending =>
      obtain ⟨name, hname, h⟩ := of_bind_ok h
      obtain ⟨b, hb, h⟩ := of_bind_ok h
      obtain ⟨u, hnothing, h⟩ := of_bind_ok h
      obtain rfl := of_nothing hnothing
      match more, ending with
      | [], .closed =>
        obtain rfl := Except.ok.inj h
        refine ⟨name, .obj [(name, .null)], of_variant hb, ?_, .inr rfl⟩
        rw [value, memberValues, hname]
        rfl
  | _ => cases h

/-- Whatever the decoder accepts has no flaw, not even where it is passed over. -/
def Careful (decode : Decoder α) : Prop := ∀ ⦃n a⦄, decode n = .ok a → n.passedFlaw? = none

theorem Careful.string : Careful string := fun _ _ h => passedFlaw?_of_value (value_of_string h)

theorem Careful.int64 : Careful int64 := fun _ _ h => passedFlaw?_of_value (of_int64 h).1

theorem Careful.oneNamed (variants : List (String × α)) : Careful (oneNamed variants) := by
  intro n a h
  obtain ⟨_, _, _, hvalue, _⟩ := of_oneNamed h
  exact passedFlaw?_of_value hvalue

theorem itemsFlaw?_eq_none {ns : List Node} (h : ∀ n ∈ ns, n.passedFlaw? = none) :
    Node.itemsFlaw? ns = none := by
  induction ns with
  | nil => rw [Node.itemsFlaw?]
  | cons n ns ih =>
    obtain ⟨hn, hns⟩ := List.forall_mem_cons.mp h
    rw [Node.itemsFlaw?, hn, ih hns]
    rfl

theorem ok_of_items {decode : Decoder α} {ns : List Node} {as : List α}
    (h : items decode ns = .ok as) : ∀ n ∈ ns, ∃ a, decode n = .ok a := by
  induction ns generalizing as with
  | nil => simp
  | cons n ns ih =>
    obtain ⟨a, ha, h⟩ := of_bind_ok h
    obtain ⟨as, has, -⟩ := of_bind_ok h
    exact List.forall_mem_cons.mpr ⟨⟨a, ha⟩, ih has⟩

theorem Careful.list {decode : Decoder α} (hc : Careful decode) : Careful (list decode) := by
  intro n as h
  cases n with
  | list ns ending =>
    obtain ⟨as, has, h⟩ := of_bind_ok h
    obtain ⟨u, hending, -⟩ := of_bind_ok h
    obtain rfl := eq_closed_of_listFlaw? (of_flawless hending)
    have hflaws : ∀ n ∈ ns, n.passedFlaw? = none := by
      intro n hn
      obtain ⟨a, ha⟩ := ok_of_items has n hn
      exact hc ha
    rw [Node.passedFlaw?, itemsFlaw?_eq_none hflaws]
    rfl
  | _ => exact absurd h mismatch_ne_ok

theorem Careful.option {decode : Decoder α} (hc : Careful decode) : Careful (option decode) := by
  intro n a h
  cases n with
  | null => rw [Node.passedFlaw?] <;> simp
  | _ =>
    obtain ⟨b, hb, -⟩ := of_map_ok h
    exact hc hb

/-- A decoder whose value is dropped accepts the same nodes. -/
theorem Careful.check {decode : Decoder α} (hc : Careful decode) :
    Careful fun n => (decode n).map fun _ => () := by
  intro n u h
  obtain ⟨a, ha, -⟩ := of_map_ok h
  exact hc ha

namespace Record

def Careful (r : Record α) : Prop := ∀ f ∈ r.fields, Json.Careful f.check

theorem Careful.required {name : String} {decode : Decoder α} (hc : Json.Careful decode) :
    Careful (required name decode) := by
  intro f hf
  obtain rfl := List.mem_singleton.mp hf
  exact hc.check

theorem Careful.nullable {name : String} {decode : Decoder α} (hc : Json.Careful decode) :
    Careful (nullable name decode) := by
  intro f hf
  obtain rfl := List.mem_singleton.mp hf
  exact hc.option.check

theorem Careful.defaulted {name : String} {value : α} {decode : Decoder α}
    (hc : Json.Careful decode) : Careful (defaulted name value decode) := by
  intro f hf
  obtain rfl := List.mem_singleton.mp hf
  exact hc.check

theorem Careful.map {f : α → β} {x : Record α} (hx : Careful x) : Careful (f <$> x) := by
  intro g hg
  exact hx g hg

theorem Careful.seq {f : Record (α → β)} {x : Record α} (hf : Careful f) (hx : Careful x) :
    Careful (f <*> x) := by
  intro g hg
  rcases List.mem_append.mp hg with hg | hg
  · exact hf g hg
  · exact hx g hg

theorem membersFlaw?_of_collect {fields : List Field} (hc : ∀ f ∈ fields, Json.Careful f.check)
    {given kept : List (String × Node)} {ms : List (Literal × Node)}
    (h : collect fields given ms = .ok kept) : Node.membersFlaw? ms = none := by
  induction ms generalizing given with
  | nil => rw [Node.membersFlaw?]
  | cons m ms ih =>
    obtain ⟨k, n⟩ := m
    obtain ⟨known, hname, ⟨-, -, ⟨f, hf, hcheck⟩, hrest⟩ | ⟨-, hflaw, hrest⟩⟩ := collect_cons h
    · rw [Node.membersFlaw?, flaw?_of_text hname, hc f hf hcheck, ih hrest]
      rfl
    · rw [Node.membersFlaw?, flaw?_of_text hname, hflaw, ih hrest]
      rfl

/-- A list that is matched with fields has ended well, and it has an item for every field that has
no default. -/
theorem of_align {whole : String} {count i : Nat} {ending : Ending} {fs : List Field}
    {ns : List Node} {kept : List (String × Node)}
    (h : align whole count ending i fs ns = .ok kept) :
    ending = .closed ∧ kept = (fs.map Field.name).zip ns ∧ ns.length ≤ fs.length ∧
      (∀ f ∈ fs.drop ns.length, f.absence = .defaulted) ∧
      (∀ n ∈ ns, ∃ f ∈ fs, f.check n = .ok ()) := by
  induction fs generalizing i ns kept with
  | nil =>
    cases ns with
    | nil =>
      obtain ⟨u, hending, h⟩ := of_bind_ok h
      obtain rfl := Except.ok.inj h
      exact ⟨eq_closed_of_listSurplus? (of_flawless hending), by simp⟩
    | cons n ns => cases h
  | cons f fs ih =>
    cases ns with
    | nil =>
      rw [align] at h
      obtain ⟨u, hending, h⟩ := of_bind_ok h
      split at h
      · rename_i hdefault
        obtain ⟨hclosed, rfl, -, hrest, -⟩ := ih h
        refine ⟨hclosed, by simp, by simp, ?_, by simp⟩
        simpa [hdefault] using hrest
      · cases h
    | cons n ns =>
      obtain ⟨u, hcheck, h⟩ := of_bind_ok h
      obtain ⟨more, hmore, h⟩ := of_bind_ok h
      obtain rfl := Except.ok.inj h
      obtain ⟨hclosed, rfl, hlength, hrest, hchecks⟩ := ih hmore
      refine ⟨hclosed, rfl, by simpa using hlength, hrest, ?_⟩
      intro m hm
      rcases List.mem_cons.mp hm with rfl | hm
      · exact ⟨f, List.mem_cons_self, hcheck⟩
      · obtain ⟨g, hg, hok⟩ := hchecks m hm
        exact ⟨g, List.mem_cons_of_mem f hg, hok⟩

variable {title : String} {r : Record α} {a : α}

theorem of_decode_list {ns : List Node} {ending : Ending}
    (h : decode title r (.list ns ending) = .ok a) :
    ending = .closed ∧ ns.length ≤ r.fields.length ∧
      (∀ f ∈ r.fields.drop ns.length, f.absence = .defaulted) ∧
      (∀ n ∈ ns, ∃ f ∈ r.fields, f.check n = .ok ()) ∧
      r.build (fun name => ((r.fields.map Field.name).zip ns).lookup name) = .ok a := by
  obtain ⟨kept, hkept, h⟩ := of_bind_ok h
  obtain ⟨hclosed, rfl, hlength, hrest, hchecks⟩ := of_align hkept
  exact ⟨hclosed, hlength, hrest, hchecks, h⟩

/-- A record is taken from an object or from a list that has been closed. -/
theorem node_of_decode {n : Node} (h : decode title r n = .ok a) :
    (∃ ms, n = .map ms .closed) ∨ ∃ ns, n = .list ns .closed := by
  cases n with
  | map ms ending =>
    obtain ⟨_, _, rfl, _⟩ := of_decode_map h
    exact .inl ⟨ms, rfl⟩
  | list ns ending =>
    obtain ⟨rfl, _⟩ := of_decode_list h
    exact .inr ⟨ns, rfl⟩
  | _ => exact absurd h mismatch_ne_ok

theorem Careful.decode (hr : r.Careful) : Json.Careful (decode title r) := by
  intro n a h
  obtain ⟨ms, rfl⟩ | ⟨ns, rfl⟩ := node_of_decode h
  · obtain ⟨kept, hkept, -⟩ := of_decode_map h
    rw [Node.passedFlaw?, membersFlaw?_of_collect hr hkept]
    rfl
  · obtain ⟨-, -, -, hchecks, -⟩ := of_decode_list h
    have hflaws : ∀ n ∈ ns, n.passedFlaw? = none := by
      intro n hn
      obtain ⟨f, hf, hcheck⟩ := hchecks n hn
      exact hr f hf hcheck
    rw [Node.passedFlaw?, itemsFlaw?_eq_none hflaws]
    rfl

/-- Where the nodes of the fields are found: under their names in an object, or in their places in a
list. -/
inductive Stands (names : List String) (given : String → Option Node) : Node → Prop where
  | members {ms : List (Literal × Node)}
    (named : ∀ name ∈ names, membersNamed ms name = (given name).toList) :
    Stands names given (.map ms .closed)
  | items {ns : List Node} (placed : ∀ name, given name = (names.zip ns).lookup name) :
    Stands names given (.list ns .closed)

theorem of_decode {n : Node} (h : decode title r n = .ok a) :
    ∃ given, Stands (r.fields.map Field.name) given n ∧ r.build given = .ok a := by
  obtain ⟨ms, rfl⟩ | ⟨ns, rfl⟩ := node_of_decode h
  · obtain ⟨kept, hkept, -, hbuild⟩ := of_decode_map h
    exact ⟨_, .members fun _ hknown => membersNamed_of_lookup hkept hknown rfl, hbuild⟩
  · obtain ⟨-, -, -, -, hbuild⟩ := of_decode_list h
    exact ⟨_, .items fun _ => rfl, hbuild⟩

/-- A list has an item for every field, if the last of them has no default. -/
theorem length_of_decode_list {ns : List Node} {ending : Ending}
    (hlast : r.fields.getLast?.map Field.absence ≠ some .defaulted)
    (h : decode title r (.list ns ending) = .ok a) : ns.length = r.fields.length := by
  obtain ⟨-, hlength, hrest, -⟩ := of_decode_list h
  by_contra hne
  have hshort : ns.length < r.fields.length := by omega
  have hfields : r.fields ≠ [] := List.ne_nil_of_length_pos (by omega)
  have hfound := List.getLast?_eq_some_getLast hfields
  have hdrop : (r.fields.drop ns.length).getLast? = some (r.fields.getLast hfields) := by
    rw [List.getLast?_drop, if_neg (by omega), hfound]
  have hdefault := hrest _ (List.mem_of_getLast? hdrop)
  exact hlast (by rw [hfound, Option.map_some, hdefault])

variable {given : String → Option Node} {name : String}

theorem of_build_map {f : α → β} {x : Record α} {b : β} (h : (f <$> x).build given = .ok b) :
    ∃ a, x.build given = .ok a ∧ f a = b := by
  rw [build_map] at h
  obtain ⟨a, ha, h⟩ := of_bind_ok h
  exact ⟨a, ha, Except.ok.inj h⟩

theorem of_build_seq {f : Record (α → β)} {x : Record α} {b : β}
    (h : (f <*> x).build given = .ok b) :
    ∃ g a, f.build given = .ok g ∧ x.build given = .ok a ∧ g a = b := by
  rw [build_seq] at h
  obtain ⟨g, hg, h⟩ := of_bind_ok h
  obtain ⟨a, ha, h⟩ := of_bind_ok h
  exact ⟨g, a, hg, ha, Except.ok.inj h⟩

theorem of_build_required {decode : Decoder α} (h : (required name decode).build given = .ok a) :
    ∃ n, given name = some n ∧ decode n = .ok a := by
  simp only [required] at h
  split at h
  · rename_i n hn
    exact ⟨n, hn, h⟩
  · cases h

theorem of_build_defaulted {value : α} {decode : Decoder α}
    (h : (defaulted name value decode).build given = .ok a) :
    (given name = none ∧ a = value) ∨ ∃ n, given name = some n ∧ decode n = .ok a := by
  simp only [defaulted] at h
  split at h
  · rename_i n hn
    exact .inr ⟨n, hn, h⟩
  · rename_i hn
    exact .inl ⟨hn, (Except.ok.inj h).symm⟩

end Record

def Tells (ms : List (Literal × Node)) (name : String) (v : Json) : Prop :=
  ∃ n, membersNamed ms name = [n] ∧ value n = .ok v

/-- The bytes are a well-formed document with this root, and nothing follows it. -/
structure Holds (bytes : List UInt8) (root : Node) : Prop where
  read : readBytes bytes = ⟨root, false⟩
  flawless : root.passedFlaw? = none

theorem holds_of_parseBytes {decoder : Decoder α} (hc : Careful decoder) {bytes : List UInt8}
    {a : α} (h : parseBytes decoder bytes = .ok a) :
    ∃ root, Holds bytes root ∧ decoder root = .ok a := by
  obtain ⟨hroot, hsurplus⟩ := of_parseBytes h
  refine ⟨(readBytes bytes).root, ⟨?_, hc hroot⟩, hroot⟩
  rw [← hsurplus]

end ParcelDesk.Json
