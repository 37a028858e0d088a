import ParcelDesk.Proofs.TextSettings

/-!
Where loaded settings come from. Every single setting is what the highest source says that says
anything about it, of the variables, the file of the environment and the common file, or else the
default, unless a source down to that one obstructs it. And what was loaded keeps the rules: no
default secret in production, and no empty pages.
-/

namespace ParcelDesk.Settings

def isToml (path : String) : Bool := ".toml".toList.isSuffixOf path.toList

def OnlyToml (files : Files) : Prop := ∀ f ∈ files, f.1 = ".env" ∨ isToml f.1 = true

instance (files : Files) : Decidable (OnlyToml files) :=
  inferInstanceAs (Decidable (∀ f ∈ files, f.1 = ".env" ∨ isToml f.1 = true))

def tomlMembers (files : Files) (base : String) : List (String × Tree) :=
  match (files.lookup (base ++ ".toml")).bind Toml.read? with
  | some ms => Tree.ofJsonMembers (some (base ++ ".toml")) ms
  | none => []

def sources (vs : Variables) (files : Files) : List (List (String × Tree)) :=
  [(given vs files).members, tomlMembers files (given vs files).environment.file,
    tomlMembers files "config/default"]

namespace Setting

variable {α : Type}

/-- A source obstructs the setting, and no higher one says anything about it. -/
def isObstructed (σ : Setting α) (vs : Variables) (files : Files) : Bool :=
  Tree.obstructedBy σ.names (sources vs files)

/-- What the highest source that says anything about the setting says, read as the setting is; the
default of the environment if none does. -/
def layered (σ : Setting α) (vs : Variables) (files : Files) : Except LoadFlaw α :=
  match Tree.firstTold? σ.names (sources vs files) with
  | some t => σ.typed t
  | none => .ok (σ.get (ofEnvironment (given vs files).environment))

end Setting

section Files

variable {files : Files}

theorem lookup_of_not_toml (h : OnlyToml files) {path : String} (henv : path ≠ ".env")
    (hpath : isToml path = false) : files.lookup path = none := by
  rw [List.lookup_eq_none_iff]
  intro f hf
  rw [bne_iff_ne]
  rintro rfl
  rcases h f hf with hvariables | htoml
  · exact henv hvariables
  · rw [hpath] at htoml
    cases htoml

/-- A settings file that is there in no other form is the TOML file of its path. -/
theorem members_of_readFile {base : String} (hplain : files.lookup base = none)
    (hjson : files.lookup (base ++ ".json") = none) {ms : List (String × Tree)}
    (hread : readFile files base = .ok ms) : ms = tomlMembers files base := by
  have hpath (extension : String) : base ++ "." ++ extension = base ++ ("." ++ extension) :=
    String.append_assoc
  have hdotToml : "." ++ "toml" = ".toml" := rfl
  have hdotJson : "." ++ "json" = ".json" := rfl
  unfold readFile at hread
  unfold tomlMembers
  simp only [hplain, formats, List.findSome?_cons, List.findSome?_nil, hpath, hdotToml, hdotJson,
    hjson, Option.isSome_none, Bool.false_eq_true, ↓reduceIte, Option.map_none] at hread
  cases htext : files.lookup (base ++ ".toml") with
  | none =>
    rw [htext] at hread
    exact (Except.ok.inj hread).symm
  | some text =>
    rw [htext] at hread
    cases hmembers : Toml.read? text with
    | none =>
      simp only [Option.map_some, hmembers] at hread
      cases hread
    | some found =>
      simp only [Option.map_some, hmembers] at hread
      rw [Option.bind_some, hmembers]
      exact (Except.ok.inj hread).symm

theorem members_of_commonFile (h : OnlyToml files) {ms : List (String × Tree)}
    (hread : readFile files "config/default" = .ok ms) :
    ms = tomlMembers files "config/default" :=
  members_of_readFile (lookup_of_not_toml h (by decide) (by decide))
    (lookup_of_not_toml h (by decide) (by decide)) hread

theorem members_of_ownFile (h : OnlyToml files) {e : Environment} {ms : List (String × Tree)}
    (hread : readFile files e.file = .ok ms) : ms = tomlMembers files e.file := by
  apply members_of_readFile ?_ ?_ hread
  · apply lookup_of_not_toml h <;> cases e <;> decide
  · apply lookup_of_not_toml h <;> cases e <;> decide

end Files

theorem layers_of_load {vs : Variables} {files : Files} {s : Settings} (hfiles : OnlyToml files)
    (h : load vs files = .ok s) :
    ofTree ((Tree.ofJson none (ofEnvironment (given vs files).environment).toJson).layAll
      (sources vs files)) = .ok s ∧ s.flaw? = none := by
  obtain ⟨common, own, hcommon, hown, htree, hflaw⟩ := of_load h
  obtain rfl := members_of_commonFile hfiles hcommon
  obtain rfl := members_of_ownFile hfiles hown
  exact ⟨htree, hflaw⟩

/-- A setting that is not obstructed is what its highest source says. -/
theorem layered_of_load {α : Type} {σ : Setting α} {vs : Variables} {files : Files} {s : Settings}
    (hfiles : OnlyToml files) (h : load vs files = .ok s) (hfree : σ.isObstructed vs files = false) :
    σ.layered vs files = .ok (σ.get s) := by
  obtain ⟨htree, -⟩ := layers_of_load hfiles h
  have hread {u : Tree}
      (hu : (Tree.layAll (Tree.ofJson none (ofEnvironment (given vs files).environment).toJson)
        (sources vs files)).tells? σ.names = some u) : σ.typed u = .ok (σ.get s) :=
    σ.reads htree (Option.filter_eq_some_iff.mp hu).1
  obtain ⟨hsome, hnone⟩ := Tree.tells?_layAll hfree
    (Tree.ofJson none (ofEnvironment (given vs files).environment).toJson)
  unfold Setting.layered
  cases hfirst : Tree.firstTold? σ.names (sources vs files) with
  | some t =>
    obtain ⟨u, hu, hseen⟩ := hsome t hfirst
    exact σ.seesNames.of_seenIn hseen (hread hu)
  | none =>
    obtain ⟨u, hu, htyped⟩ := Option.map_eq_some_iff.mp
      (σ.typed_default (given vs files).environment)
    exact htyped.symm.trans (hread ((hnone hfirst).trans hu))

/-- The rules that no settings break which are not refused. -/
theorem flaw?_eq_none_iff (s : Settings) : s.flaw? = none ↔
    ¬ (s.environment = .production ∧ s.auth.token.secret = TokenSettings.defaultSecret) ∧
      s.orders.defaultPageSize ≠ 0 ∧ s.orders.maxPageSize ≠ 0 := by
  unfold Settings.flaw? TokenSettings.hasDefaultSecret
  by_cases hsecret :
      s.environment = .production ∧ s.auth.token.secret = TokenSettings.defaultSecret
  · rw [if_pos (by simpa using hsecret)]
    exact iff_of_false (by simp) fun h => h.1 hsecret
  · rw [if_neg (by simpa using hsecret), and_iff_right hsecret]
    by_cases hpages : s.orders.defaultPageSize = 0 ∨ s.orders.maxPageSize = 0
    · rw [if_pos (by simpa using hpages)]
      exact iff_of_false (by simp) (not_and_or.mpr (by simpa using hpages))
    · rw [if_neg (by simpa using hpages)]
      exact iff_of_true rfl (not_or.mp hpages)

/-- Whenever settings are loaded from variables and TOML files, every single setting is what its
highest source says, read as the setting is: the variables, the file of the environment that the
variables pick, the common file, and last the default of that environment. Only settings that this
source or a higher one obstructs may be others. Variables of a file count only where they are not
set already. In production the secret is never the default one, and no page is ever empty. -/
theorem settings_are_layered {vs : Variables} {files : Files} {s : Settings}
    (hfiles : OnlyToml files) (hload : load vs files = .ok s) :
    (∀ {α : Type} (σ : Setting α), σ.isObstructed vs files = false →
      σ.layered vs files = .ok (σ.get s)) ∧
    (∃ added, given vs files = vs ++ added ∧ (∀ e ∈ added, vs.lookup e.1 = none) ∧
      (files.lookup ".env" = none → added = [])) ∧
    ¬ (s.environment = .production ∧ s.auth.token.secret = TokenSettings.defaultSecret) ∧
    s.orders.defaultPageSize ≠ 0 ∧ s.orders.maxPageSize ≠ 0 := by
  obtain ⟨-, hflaw⟩ := layers_of_load hfiles hload
  refine ⟨?_, given_eq_append vs files, (flaw?_eq_none_iff s).mp hflaw⟩
  intro α σ hfree
  exact layered_of_load hfiles hload hfree

def shopVariables : Variables := [("APP_ENV", "production"), ("APP_ORDERS__HOME_CITY", "7")]

def shopFiles : Files :=
  [(".env", "APP_ENV=staging\nAPP_SERVER__WORKERS=3\n"),
    ("config/default.toml",
      "[server]\nhost = \"127.0.0.1\"\nport = 9000\n[auth.jwt]\nsecret = \"s3cret\"\n"),
    ("config/production.toml", "[server]\nport = 9001\n")]

/-- Of the server's settings, one each comes from a variable, the file for production, the common
file and the defaults. -/
theorem shop_settings_are_layered : ∃ s, OnlyToml shopFiles ∧
    load shopVariables shopFiles = .ok s ∧
    Setting.port.isObstructed shopVariables shopFiles = false ∧
    s.environment = .production ∧ s.orders.homeCity = 7 ∧ s.server.workers = 3 ∧
    s.server.port = 9001 ∧ s.server.host = "127.0.0.1" ∧ s.server.keepAlive = 75 ∧
    s.auth.token.secret ≠ TokenSettings.defaultSecret := by
  -- one evaluation, which reads the files once
  obtain ⟨hfiles, hloads, hfree, hothers, htells⟩ : OnlyToml shopFiles ∧
      (load shopVariables shopFiles).toBool = true ∧
      Setting.port.isObstructed shopVariables shopFiles = false ∧
      (Setting.environment.isObstructed shopVariables shopFiles = false ∧
        Setting.homeCity.isObstructed shopVariables shopFiles = false ∧
        Setting.workers.isObstructed shopVariables shopFiles = false ∧
        Setting.host.isObstructed shopVariables shopFiles = false ∧
        Setting.keepAlive.isObstructed shopVariables shopFiles = false) ∧
      Setting.port.layered shopVariables shopFiles = .ok 9001 ∧
      Setting.environment.layered shopVariables shopFiles = .ok .production ∧
      Setting.homeCity.layered shopVariables shopFiles = .ok 7 ∧
      Setting.workers.layered shopVariables shopFiles = .ok 3 ∧
      Setting.host.layered shopVariables shopFiles = .ok "127.0.0.1" ∧
      Setting.keepAlive.layered shopVariables shopFiles = .ok 75 := by
    decide +kernel
  obtain ⟨hport, henvironment, hcity, hworkers, hhost, halive⟩ := htells
  obtain ⟨hfreeEnvironment, hfreeCity, hfreeWorkers, hfreeHost, hfreeAlive⟩ := hothers
  cases hload : load shopVariables shopFiles with
  | error flaw =>
    rw [hload] at hloads
    cases hloads
  | ok s =>
    obtain ⟨hlayered, -, hsecret, -⟩ := settings_are_layered hfiles hload
    rw [hlayered .port hfree] at hport
    rw [hlayered .environment hfreeEnvironment] at henvironment
    rw [hlayered .homeCity hfreeCity] at hcity
    rw [hlayered .workers hfreeWorkers] at hworkers
    rw [hlayered .host hfreeHost] at hhost
    rw [hlayered .keepAlive hfreeAlive] at halive
    have hproduction : s.environment = .production := Except.ok.inj henvironment
    exact ⟨s, hfiles, rfl, hfree, hproduction, Except.ok.inj hcity, Except.ok.inj hworkers,
      Except.ok.inj hport, Except.ok.inj hhost, Except.ok.inj halive,
      fun hdefault => hsecret ⟨hproduction, hdefault⟩⟩

def clearedFiles : Files :=
  [("config/default.toml", "[auth.jwt]\nsecret = \"s3cret\"\n"),
    ("config/development.toml", "auth = 5\n")]

def hashingVariables : Variables := [("APP_AUTH__BCRYPT_COST", "4")]

def originFiles : Files :=
  [("config/default.toml",
    "[server]\nallowed_origins = [\"https://a.example\", \"https://b.example\"]\n")]

def originVariables : Variables := [("APP_SERVER__ALLOWED_ORIGINS[0]", "https://c.example")]

/-- A setting that is obstructed is not what its highest source says: a secret is lost together with
its table although no higher source sets one, and a list is made up from two sources. -/
theorem obstructed_settings_are_not_layered :
    OnlyToml clearedFiles ∧
    Setting.secret.layered hashingVariables clearedFiles = .ok "s3cret" ∧
    (load hashingVariables clearedFiles).map Setting.secret.get =
      .ok TokenSettings.defaultSecret ∧
    OnlyToml originFiles ∧
    Setting.allowedOrigins.layered originVariables originFiles = .ok ["https://c.example"] ∧
    (load originVariables originFiles).map Setting.allowedOrigins.get =
      .ok ["https://c.example", "https://b.example"] := by
  decide +kernel

end ParcelDesk.Settings
