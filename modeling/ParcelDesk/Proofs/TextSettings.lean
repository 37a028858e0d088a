import ParcelDesk.Proofs.Numerals
import ParcelDesk.Proofs.SingleSettings

/-!
Settings that are texts, and the variables that set them. A variable is tried as a truth value and
as a number before it is taken as a text, so a setting is not always what was written: it is the
number or the word that was read, printed again.
-/

namespace ParcelDesk.Settings

inductive TextSetting where
  | secret
  | lead
  | databaseUrl
  | cacheUrl
  | host
  | level

namespace TextSetting

def names : TextSetting → List String
  | secret => ["auth", "jwt", "secret"]
  | lead => ["orders", "consignment_prefix"]
  | databaseUrl => ["database", "url"]
  | cacheUrl => ["cache", "url"]
  | host => ["server", "host"]
  | level => ["logging", "level"]

def get : TextSetting → Settings → String
  | secret, s => s.auth.token.secret
  | lead, s => s.orders.lead
  | databaseUrl, s => s.database.url
  | cacheUrl, s => s.cache.url
  | host, s => s.server.host
  | level, s => s.logging.level

def variableName (σ : TextSetting) : String :=
  "APP_" ++ "__".intercalate (σ.names.map fun name => String.ofList (name.toList.map Char.toUpper))

/-- A variable by this name bears on the setting: its value would stand in the place of the setting
or of a table that leads there. -/
def isTouchedBy (σ : TextSetting) (name : String) : Bool :=
  (Variables.key? name).any fun key => (Path.ofKey key).displaces σ.names

theorem key?_variableName (σ : TextSetting) :
    Variables.key? σ.variableName = some (".".intercalate σ.names) := by
  cases σ <;> decide

theorem ofKey_names (σ : TextSetting) :
    Path.ofKey (".".intercalate σ.names) = σ.names.map .key := by
  cases σ <;> decide

/-- The setting is what stands under its names, read as a text. -/
theorem reads (σ : TextSetting) : Typed.Reads ofTree σ.names Typed.text σ.get := by
  cases σ with
  | secret => exact Setting.secret.reads
  | lead => exact Setting.lead.reads
  | databaseUrl => exact Setting.databaseUrl.reads
  | cacheUrl => exact Setting.cacheUrl.reads
  | host => exact Setting.host.reads
  | level => exact Setting.level.reads

end TextSetting

def truthWord (b : Bool) : String := if b then "true" else "false"

inductive ReadsAs (v : String) : String → Prop
  | truth (b : Bool) (h : Text.fold v = truthWord b) : ReadsAs v (truthWord b)
  | whole {n : Int} (hword : ∀ b, Text.fold v ≠ truthWord b)
      (h : Decimal.readInt64 v.toList = .ok n) :
      ReadsAs v (String.ofList (Decimal.integerDigits n))
  | real {x : Float} (hword : ∀ b, Text.fold v ≠ truthWord b)
      (hwhole : ∀ n, Decimal.readInt64 v.toList ≠ .ok n)
      (h : Decimal.readReal? v.toList = some x) : ReadsAs v (Decimal.plain x)
  | verbatim (hword : ∀ b, Text.fold v ≠ truthWord b)
      (hwhole : ∀ n, Decimal.readInt64 v.toList ≠ .ok n)
      (hreal : Decimal.readReal? v.toList = none) : ReadsAs v v

theorem text_scalar (origin : Option String) (v : String) :
    ∃ y, Typed.text (.scalar origin (Variables.scalar v)) = .ok y ∧ ReadsAs v y := by
  unfold Variables.scalar
  split
  · rename_i hword
    exact ⟨_, rfl, .truth true hword⟩
  · rename_i hword
    exact ⟨_, rfl, .truth false hword⟩
  · rename_i hfalse htrue
    have hword (b : Bool) : Text.fold v ≠ truthWord b := by
      cases b with
      | true => exact hfalse
      | false => exact htrue
    cases hwhole : Decimal.readInt64 v.toList with
    | ok n => exact ⟨_, rfl, .whole hword hwhole⟩
    | error flaw =>
      have hwhole (n : Int) : Decimal.readInt64 v.toList ≠ .ok n := by
        rw [hwhole]
        simp
      cases hreal : Decimal.readReal? v.toList with
      | some x => exact ⟨_, rfl, .real hword hwhole hreal⟩
      | none => exact ⟨_, rfl, .verbatim hword hwhole hreal⟩

/-- A tree with places for others is no text. -/
theorem not_text_of_isInner {u : Tree} (h : u.isInner = true) (y : String) :
    Typed.text u ≠ .ok y := by
  cases u with
  | scalar origin value => cases h
  | list origin items => simp [Typed.text, Tree.mismatch]
  | table origin members => simp [Typed.text, Tree.mismatch]

def given (vs : Variables) (files : Files) : Variables :=
  match files.lookup ".env" with
  | some text => Dotenv.add text vs
  | none => vs

/-- The variables of a file are added to those that are set, and replace none of them. -/
theorem Dotenv.addLines_eq_append (lines : List (List Char)) (vs : Variables) :
    ∃ added, addLines lines vs = vs ++ added ∧ ∀ e ∈ added, vs.lookup e.1 = none := by
  induction lines generalizing vs with
  | nil => exact ⟨[], (List.append_nil vs).symm, fun _ he => absurd he List.not_mem_nil⟩
  | cons line more ih =>
    unfold addLines
    split
    · exact ih vs
    · exact ih vs
    · split
      · exact ⟨[], (List.append_nil vs).symm, fun _ he => absurd he List.not_mem_nil⟩
      · rename_i key value _
        split
        · exact ih vs
        · rename_i hnew
          obtain ⟨added, hadded, hunset⟩ := ih (vs ++ [(key, value)])
          refine ⟨(key, value) :: added, ?_, ?_⟩
          · rw [hadded, List.append_assoc, List.singleton_append]
          · intro e he
            rcases List.mem_cons.mp he with rfl | he
            · exact Option.not_isSome_iff_eq_none.mp hnew
            · have hlater := hunset e he
              rw [List.lookup_append, Option.or_eq_none_iff] at hlater
              exact hlater.1

theorem given_eq_append (vs : Variables) (files : Files) :
    ∃ added, given vs files = vs ++ added ∧ (∀ e ∈ added, vs.lookup e.1 = none) ∧
      (files.lookup ".env" = none → added = []) := by
  unfold given
  cases files.lookup ".env" with
  | none =>
    exact ⟨[], (List.append_nil vs).symm, fun _ he => absurd he List.not_mem_nil, fun _ => rfl⟩
  | some text =>
    obtain ⟨added, hadded, hunset⟩ := Dotenv.addLines_eq_append _ vs
    exact ⟨added, hadded, hunset, fun h => by cases h⟩

/-- A variable that exists keeps its value. -/
theorem mem_given {e : String × String} {vs : Variables} (h : e ∈ vs) (files : Files) :
    e ∈ given vs files := by
  obtain ⟨added, hadded, -⟩ := given_eq_append vs files
  rw [hadded]
  exact List.mem_append_left added h

/-- Nothing is laid in other places than its paths lead to. -/
theorem eq_lay_of_layOver {base t : Tree} {ms : List (String × Tree)}
    (h : layOver base ms = .ok t) : t = base.lay ms := by
  unfold layOver at h
  unfold Tree.lay
  induction ms generalizing base with
  | nil => exact (Except.ok.inj h).symm
  | cons m ms ih =>
    obtain ⟨k, v⟩ := m
    rw [List.foldlM_cons] at h
    rw [List.foldl_cons]
    obtain ⟨laid, hlaid, h⟩ := of_bind_ok h
    dsimp only at hlaid
    split at hlaid
    · obtain rfl := Except.ok.inj hlaid
      exact ih h
    · cases hlaid

/-- What is loaded is read from the defaults under both files and, over everything else, the
variables; and it is refused by no rule. -/
theorem of_load {vs : Variables} {files : Files} {s : Settings} (h : load vs files = .ok s) :
    ∃ common own, readFile files "config/default" = .ok common ∧
      readFile files (given vs files).environment.file = .ok own ∧
      ofTree ((((Tree.ofJson none (ofEnvironment (given vs files).environment).toJson).lay
        common).lay own).lay (given vs files).members) = .ok s ∧ s.flaw? = none := by
  obtain ⟨t, ht, h⟩ := of_bind_ok h
  obtain ⟨settings, hsettings, h⟩ := of_bind_ok h
  obtain ⟨common, hcommon, ht⟩ := of_bind_ok ht
  obtain ⟨first, hfirst, ht⟩ := of_bind_ok ht
  obtain ⟨own, hown, ht⟩ := of_bind_ok ht
  obtain ⟨second, hsecond, ht⟩ := of_bind_ok ht
  have hkept : settings.flaw? = none ∧ settings = s := by
    cases hflaw : settings.flaw? with
    | some flaw =>
      rw [hflaw] at h
      cases h
    | none =>
      rw [hflaw] at h
      exact ⟨rfl, Except.ok.inj h⟩
  obtain ⟨hflaw, rfl⟩ := hkept
  obtain rfl := eq_lay_of_layOver hfirst
  obtain rfl := eq_lay_of_layOver hsecond
  obtain rfl := eq_lay_of_layOver ht
  exact ⟨common, own, hcommon, hown, hsettings, hflaw⟩

theorem mem_members {vs : Variables} {name value key : String} (h : (name, value) ∈ vs)
    (hkey : Variables.key? name = some key) :
    (key, .scalar (some Variables.origin) (Variables.scalar value)) ∈ vs.members := by
  refine List.mem_filterMap.mpr ⟨(name, value), h, ?_⟩
  simp only [hkey, Option.map_some]

theorem of_mem_members {vs : Variables} {m : String × Tree} (h : m ∈ vs.members) :
    ∃ e ∈ vs, Variables.key? e.1 = some m.1 ∧
      m.2 = .scalar (some Variables.origin) (Variables.scalar e.2) := by
  obtain ⟨e, he, hm⟩ := List.mem_filterMap.mp h
  obtain ⟨key, hkey, hm⟩ := Option.map_eq_some_iff.mp hm
  exact ⟨e, he, hm ▸ hkey, hm ▸ rfl⟩

/-- The variable of a setting, if no other bears on the setting, decides what stands in its
place. -/
theorem settled_of_given {σ : TextSetting} {v : String} {vs : Variables}
    (hset : (σ.variableName, v) ∈ vs)
    (halone : ∀ e ∈ vs, σ.isTouchedBy e.1 = true → e = (σ.variableName, v)) (base : Tree) :
    (base.lay vs.members).Settled σ.names
      (.scalar (some Variables.origin) (Variables.scalar v)) := by
  refine Tree.settled_lay σ.ofKey_names (mem_members hset σ.key?_variableName) ?_ base
  intro m hm hover
  obtain ⟨e, he, hkey, hvalue⟩ := of_mem_members hm
  have htouched : σ.isTouchedBy e.1 = true := by
    rw [TextSetting.isTouchedBy, hkey]
    exact hover
  have hsame := halone e he htouched
  rw [hsame, σ.key?_variableName] at hkey
  rw [hsame] at hvalue
  exact Prod.ext (Option.some.inj hkey).symm hvalue

def isWord (v : String) : Bool :=
  Text.fold v == truthWord true || Text.fold v == truthWord false ||
    Decimal.isNumberWord v.toList

/-- A text with a character that no number has is taken as it stands, unless it is a word. -/
theorem ReadsAs.eq_self {v y : String} (h : ReadsAs v y) (hword : isWord v = false)
    (hother : (v.toList.all Decimal.isNumeric) = false) : y = v := by
  simp only [isWord, Bool.or_eq_false_iff, beq_eq_false_iff_ne] at hword
  have hnot (hall : ∀ c ∈ v.toList, Decimal.isNumeric c = true) : False := by
    rw [List.all_eq_true.mpr hall] at hother
    cases hother
  cases h with
  | truth b hfold =>
    cases b with
    | true => exact absurd hfold hword.1.1
    | false => exact absurd hfold hword.1.2
  | whole _ hread => exact (hnot (Decimal.all_isNumeric_of_readInt64 hread)).elim
  | real _ _ hread => exact (hnot (Decimal.all_isNumeric_of_readReal? hread hword.2)).elim
  | verbatim => rfl

/-- When settings are loaded that a text setting's own variable is set for, and no other variable
bears on the setting, then the setting is what the value reads as: a truth value in lower case, a
whole number or a double in its usual digits, and otherwise the value as it stands. The last is the
case for every value with a character that no number has, unless it is one of the words for truth
values and for what is not finite. -/
theorem text_settings_are_read_back (σ : TextSetting) {v : String} {vs : Variables}
    {files : Files} {s : Settings} (hset : (σ.variableName, v) ∈ vs)
    (halone : ∀ e ∈ given vs files, σ.isTouchedBy e.1 = true → e = (σ.variableName, v))
    (hload : load vs files = .ok s) :
    ReadsAs v (σ.get s) ∧
      (isWord v = false → v.toList.all Decimal.isNumeric = false → σ.get s = v) := by
  obtain ⟨common, own, -, -, htree, -⟩ := of_load hload
  obtain ⟨u, hfound, hu⟩ := settled_of_given (mem_given hset files) halone _
  have htext := σ.reads htree hfound
  have hreads : ReadsAs v (σ.get s) := by
    obtain rfl | hinner := hu
    · obtain ⟨y, hy, hreads⟩ := text_scalar (some Variables.origin) v
      obtain rfl := Except.ok.inj (htext.symm.trans hy)
      exact hreads
    · exact absurd htext (not_text_of_isInner hinner _)
  exact ⟨hreads, hreads.eq_self⟩

def plainSecret : Variables := [("APP_SERVER__PORT", "0900"), ("APP_AUTH__JWT__SECRET", "007-n0t-1")]

/-- This secret is taken as it stands, and the port is not in its way. -/
theorem plain_secret_is_taken : ∃ s,
    (TextSetting.secret.variableName, "007-n0t-1") ∈ plainSecret ∧
    (∀ e ∈ given plainSecret [], TextSetting.secret.isTouchedBy e.1 = true →
      e = (TextSetting.secret.variableName, "007-n0t-1")) ∧
    load plainSecret [] = .ok s ∧ TextSetting.secret.get s = "007-n0t-1" := by
  have hset : (TextSetting.secret.variableName, "007-n0t-1") ∈ plainSecret := by decide
  have halone : ∀ e ∈ given plainSecret [], TextSetting.secret.isTouchedBy e.1 = true →
      e = (TextSetting.secret.variableName, "007-n0t-1") := by decide
  cases hload : load plainSecret [] with
  | error flaw =>
    have hloads : (load plainSecret []).toBool = true := by decide +kernel
    rw [hload] at hloads
    cases hloads
  | ok s =>
    obtain ⟨-, hverbatim⟩ := text_settings_are_read_back .secret hset halone hload
    exact ⟨s, hset, halone, rfl, hverbatim (by decide) (by decide)⟩

/-- Not every secret is taken as it stands: leading zeros are lost, and the same name in other
capitals may overrule the variable. -/
theorem secrets_are_respelled :
    (load [(TextSetting.secret.variableName, "007")] []).map TextSetting.secret.get = .ok "7" ∧
    (load [(TextSetting.secret.variableName, "alpha"), ("app_auth__jwt__secret", "beta")] []).map
      TextSetting.secret.get = .ok "beta" := by
  decide +kernel

end ParcelDesk.Settings
