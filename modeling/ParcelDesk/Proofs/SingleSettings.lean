import ParcelDesk.Proofs.JsonMembers
import ParcelDesk.Proofs.MergedTrees
import ParcelDesk.Settings.Load

/-!
The single settings: under which names each of them stands in a tree, how it is read there, and
where it ends up. Taking the settings out of a tree reads every one of them at its own place, and
looks at nothing but the name of a table's only member if a table stands there.
-/

namespace ParcelDesk.Settings

inductive Setting : Type → Type
  | environment : Setting Environment
  | host : Setting String
  | port : Setting Nat
  | workers : Setting Nat
  | shutdownTimeout : Setting Nat
  | keepAlive : Setting Nat
  | allowedOrigins : Setting (List String)
  | databaseUrl : Setting String
  | maxConnections : Setting Nat
  | connectTimeout : Setting Nat
  | idleTimeout : Setting Nat
  | maxLifetime : Setting Nat
  | runMigrations : Setting Bool
  | slowQueryThreshold : Setting Nat
  | cacheUrl : Setting String
  | connectionTimeout : Setting Nat
  | maxRetries : Setting Nat
  | retryDelay : Setting Nat
  | secret : Setting String
  | accessLifetime : Setting Int
  | refreshLifetime : Setting Int
  | cacheLifetime : Setting Nat
  | hashCost : Setting Nat
  | lead : Setting String
  | homeCity : Setting Int
  | defaultPageSize : Setting Nat
  | maxPageSize : Setting Nat
  | level : Setting String
  | format : Setting LogFormat

namespace Setting

variable {α : Type}

def names : Setting α → List String
  | environment => ["environment"]
  | host => ["server", "host"]
  | port => ["server", "port"]
  | workers => ["server", "workers"]
  | shutdownTimeout => ["server", "shutdown_timeout"]
  | keepAlive => ["server", "keep_alive"]
  | allowedOrigins => ["server", "allowed_origins"]
  | databaseUrl => ["database", "url"]
  | maxConnections => ["database", "max_connections"]
  | connectTimeout => ["database", "connect_timeout"]
  | idleTimeout => ["database", "idle_timeout"]
  | maxLifetime => ["database", "max_lifetime"]
  | runMigrations => ["database", "run_migrations"]
  | slowQueryThreshold => ["database", "slow_query_threshold"]
  | cacheUrl => ["cache", "url"]
  | connectionTimeout => ["cache", "connection_timeout"]
  | maxRetries => ["cache", "max_retries"]
  | retryDelay => ["cache", "retry_delay_ms"]
  | secret => ["auth", "jwt", "secret"]
  | accessLifetime => ["auth", "jwt", "access_token_expiry"]
  | refreshLifetime => ["auth", "jwt", "refresh_token_expiry"]
  | cacheLifetime => ["auth", "token_cache_ttl"]
  | hashCost => ["auth", "bcrypt_cost"]
  | lead => ["orders", "consignment_prefix"]
  | homeCity => ["orders", "home_city"]
  | defaultPageSize => ["orders", "default_page_size"]
  | maxPageSize => ["orders", "max_page_size"]
  | level => ["logging", "level"]
  | format => ["logging", "format"]

def typed : Setting α → Typed α
  | environment => Typed.oneNamed "Environment" Environment.all
  | format => Typed.oneNamed "LogFormat" LogFormat.all
  | host | databaseUrl | cacheUrl | secret | lead | level => Typed.text
  | allowedOrigins => Typed.list Typed.text
  | runMigrations => Typed.boolean
  | accessLifetime | refreshLifetime | homeCity => Typed.int64
  | port => word16
  | maxConnections | maxRetries | hashCost | defaultPageSize | maxPageSize => word32
  | workers | shutdownTimeout | keepAlive | connectTimeout | idleTimeout | maxLifetime
  | slowQueryThreshold | connectionTimeout | retryDelay | cacheLifetime => word64

def get : Setting α → Settings → α
  | environment, s => s.environment
  | host, s => s.server.host
  | port, s => s.server.port
  | workers, s => s.server.workers
  | shutdownTimeout, s => s.server.shutdownTimeout
  | keepAlive, s => s.server.keepAlive
  | allowedOrigins, s => s.server.allowedOrigins
  | databaseUrl, s => s.database.url
  | maxConnections, s => s.database.maxConnections
  | connectTimeout, s => s.database.connectTimeout
  | idleTimeout, s => s.database.idleTimeout
  | maxLifetime, s => s.database.maxLifetime
  | runMigrations, s => s.database.runMigrations
  | slowQueryThreshold, s => s.database.slowQueryThreshold
  | cacheUrl, s => s.cache.url
  | connectionTimeout, s => s.cache.connectionTimeout
  | maxRetries, s => s.cache.maxRetries
  | retryDelay, s => s.cache.retryDelay
  | secret, s => s.auth.token.secret
  | accessLifetime, s => s.auth.token.accessLifetime
  | refreshLifetime, s => s.auth.token.refreshLifetime
  | cacheLifetime, s => s.auth.cacheLifetime
  | hashCost, s => s.auth.hashCost
  | lead, s => s.orders.lead
  | homeCity, s => s.orders.homeCity
  | defaultPageSize, s => s.orders.defaultPageSize
  | maxPageSize, s => s.orders.maxPageSize
  | level, s => s.logging.level
  | format, s => s.logging.format

end Setting

namespace Typed

variable {α β γ : Type}

/-- What stands under the names, read in one way, is a part of the whole. -/
def Reads (whole : Typed α) (names : List String) (part : Typed β) (get : α → β) : Prop :=
  ∀ {t u : Tree} {a : α}, whole t = .ok a → t.find? names = some u → part u = .ok (get a)

theorem Reads.trans {whole : Typed α} {middle : Typed β} {part : Typed γ}
    {names more : List String} {get : α → β} {pick : β → γ} (h : Reads whole names middle get)
    (hmore : Reads middle more part pick) :
    Reads whole (names ++ more) part fun a => pick (get a) := by
  intro t u a ha hu
  rw [Tree.find?_append, Option.bind_eq_some_iff] at hu
  obtain ⟨child, hchild, hu⟩ := hu
  exact hmore (h ha hchild) hu

def Holds (t : Tree) (name : String) (part : Typed β) (b : β) : Prop :=
  ∀ u, t.find? [name] = some u → part u = .ok b

/-- A member of a table is a field by its name. -/
theorem holds_of_get {title name : String} {count position : Nat} {default : Option β}
    {part : Typed β} {t : Tree} {f : Fields} {b : β} (hf : fields title count t = .ok f)
    (hget : f.get position name default part = .ok b) : Holds t name part b := by
  intro u hu
  have hlookup : t.members.lookup name = some u := by
    rw [Tree.find?, Option.bind_eq_some_iff] at hu
    obtain ⟨child, hchild, hu⟩ := hu
    obtain rfl := Option.some.inj hu
    exact hchild
  cases t with
  | scalar origin value => cases hf
  | list origin items => cases hlookup
  | table origin members =>
    obtain rfl := Except.ok.inj hf
    rw [Tree.members] at hlookup
    unfold Fields.get at hget
    simp only [hlookup] at hget
    cases hpart : part u with
    | error flaw =>
      rw [hpart] at hget
      cases hget
    | ok a =>
      rw [hpart] at hget
      exact congrArg Except.ok (Except.ok.inj hget)

section Records

variable {t : Tree}

structure HoldsServer (t : Tree) (s : ServerSettings) : Prop where
  host : Holds t "host" text s.host
  port : Holds t "port" word16 s.port
  workers : Holds t "workers" word64 s.workers
  shutdownTimeout : Holds t "shutdown_timeout" word64 s.shutdownTimeout
  keepAlive : Holds t "keep_alive" word64 s.keepAlive
  allowedOrigins : Holds t "allowed_origins" (list text) s.allowedOrigins

theorem holds_serverOf {s : ServerSettings} (h : serverOf t = .ok s) : HoldsServer t s := by
  obtain ⟨f, hf, h⟩ := of_bind_ok h
  obtain ⟨host, hhost, h⟩ := of_bind_ok h
  obtain ⟨port, hport, h⟩ := of_bind_ok h
  obtain ⟨workers, hworkers, h⟩ := of_bind_ok h
  obtain ⟨shutdown, hshutdown, h⟩ := of_bind_ok h
  obtain ⟨alive, halive, h⟩ := of_bind_ok h
  obtain ⟨origins, horigins, h⟩ := of_bind_ok h
  obtain rfl := Except.ok.inj h
  exact {
    host := holds_of_get hf hhost
    port := holds_of_get hf hport
    workers := holds_of_get hf hworkers
    shutdownTimeout := holds_of_get hf hshutdown
    keepAlive := holds_of_get hf halive
    allowedOrigins := holds_of_get hf horigins }

structure HoldsDatabase (t : Tree) (d : DatabaseSettings) : Prop where
  url : Holds t "url" text d.url
  maxConnections : Holds t "max_connections" word32 d.maxConnections
  connectTimeout : Holds t "connect_timeout" word64 d.connectTimeout
  idleTimeout : Holds t "idle_timeout" word64 d.idleTimeout
  maxLifetime : Holds t "max_lifetime" word64 d.maxLifetime
  runMigrations : Holds t "run_migrations" boolean d.runMigrations
  slowQueryThreshold : Holds t "slow_query_threshold" word64 d.slowQueryThreshold

theorem holds_databaseOf {d : DatabaseSettings} (h : databaseOf t = .ok d) :
    HoldsDatabase t d := by
  obtain ⟨f, hf, h⟩ := of_bind_ok h
  obtain ⟨url, hurl, h⟩ := of_bind_ok h
  obtain ⟨connections, hconnections, h⟩ := of_bind_ok h
  obtain ⟨connect, hconnect, h⟩ := of_bind_ok h
  obtain ⟨idle, hidle, h⟩ := of_bind_ok h
  obtain ⟨lifetime, hlifetime, h⟩ := of_bind_ok h
  obtain ⟨migrations, hmigrations, h⟩ := of_bind_ok h
  obtain ⟨slow, hslow, h⟩ := of_bind_ok h
  obtain rfl := Except.ok.inj h
  exact {
    url := holds_of_get hf hurl
    maxConnections := holds_of_get hf hconnections
    connectTimeout := holds_of_get hf hconnect
    idleTimeout := holds_of_get hf hidle
    maxLifetime := holds_of_get hf hlifetime
    runMigrations := holds_of_get hf hmigrations
    slowQueryThreshold := holds_of_get hf hslow }

structure HoldsCache (t : Tree) (c : CacheSettings) : Prop where
  url : Holds t "url" text c.url
  connectionTimeout : Holds t "connection_timeout" word64 c.connectionTimeout
  maxRetries : Holds t "max_retries" word32 c.maxRetries
  retryDelay : Holds t "retry_delay_ms" word64 c.retryDelay

theorem holds_cacheOf {c : CacheSettings} (h : cacheOf t = .ok c) : HoldsCache t c := by
  obtain ⟨f, hf, h⟩ := of_bind_ok h
  obtain ⟨url, hurl, h⟩ := of_bind_ok h
  obtain ⟨timeout, htimeout, h⟩ := of_bind_ok h
  obtain ⟨retries, hretries, h⟩ := of_bind_ok h
  obtain ⟨delay, hdelay, h⟩ := of_bind_ok h
  obtain rfl := Except.ok.inj h
  exact {
    url := holds_of_get hf hurl
    connectionTimeout := holds_of_get hf htimeout
    maxRetries := holds_of_get hf hretries
    retryDelay := holds_of_get hf hdelay }

structure HoldsToken (t : Tree) (a : TokenSettings) : Prop where
  secret : Holds t "secret" text a.secret
  accessLifetime : Holds t "access_token_expiry" int64 a.accessLifetime
  refreshLifetime : Holds t "refresh_token_expiry" int64 a.refreshLifetime

theorem holds_tokenOf {a : TokenSettings} (h : tokenOf t = .ok a) : HoldsToken t a := by
  obtain ⟨f, hf, h⟩ := of_bind_ok h
  obtain ⟨secret, hsecret, h⟩ := of_bind_ok h
  obtain ⟨access, haccess, h⟩ := of_bind_ok h
  obtain ⟨refresh, hrefresh, h⟩ := of_bind_ok h
  obtain rfl := Except.ok.inj h
  exact {
    secret := holds_of_get hf hsecret
    accessLifetime := holds_of_get hf haccess
    refreshLifetime := holds_of_get hf hrefresh }

structure HoldsAuth (t : Tree) (a : AuthSettings) : Prop where
  token : Holds t "jwt" tokenOf a.token
  cacheLifetime : Holds t "token_cache_ttl" word64 a.cacheLifetime
  hashCost : Holds t "bcrypt_cost" word32 a.hashCost

theorem holds_authOf {a : AuthSettings} (h : authOf t = .ok a) : HoldsAuth t a := by
  obtain ⟨f, hf, h⟩ := of_bind_ok h
  obtain ⟨token, htoken, h⟩ := of_bind_ok h
  obtain ⟨lifetime, hlifetime, h⟩ := of_bind_ok h
  obtain ⟨cost, hcost, h⟩ := of_bind_ok h
  obtain rfl := Except.ok.inj h
  exact {
    token := holds_of_get hf htoken
    cacheLifetime := holds_of_get hf hlifetime
    hashCost := holds_of_get hf hcost }

structure HoldsOrders (t : Tree) (o : OrderSettings) : Prop where
  lead : Holds t "consignment_prefix" text o.lead
  homeCity : Holds t "home_city" int64 o.homeCity
  defaultPageSize : Holds t "default_page_size" word32 o.defaultPageSize
  maxPageSize : Holds t "max_page_size" word32 o.maxPageSize

theorem holds_ordersOf {o : OrderSettings} (h : ordersOf t = .ok o) : HoldsOrders t o := by
  obtain ⟨f, hf, h⟩ := of_bind_ok h
  obtain ⟨lead, hlead, h⟩ := of_bind_ok h
  obtain ⟨city, hcity, h⟩ := of_bind_ok h
  obtain ⟨usual, husual, h⟩ := of_bind_ok h
  obtain ⟨most, hmost, h⟩ := of_bind_ok h
  obtain rfl := Except.ok.inj h
  exact {
    lead := holds_of_get hf hlead
    homeCity := holds_of_get hf hcity
    defaultPageSize := holds_of_get hf husual
    maxPageSize := holds_of_get hf hmost }

structure HoldsLogging (t : Tree) (l : LogSettings) : Prop where
  level : Holds t "level" text l.level
  format : Holds t "format" (oneNamed "LogFormat" LogFormat.all) l.format

theorem holds_loggingOf {l : LogSettings} (h : loggingOf t = .ok l) : HoldsLogging t l := by
  obtain ⟨f, hf, h⟩ := of_bind_ok h
  obtain ⟨level, hlevel, h⟩ := of_bind_ok h
  obtain ⟨format, hformat, h⟩ := of_bind_ok h
  obtain rfl := Except.ok.inj h
  exact {
    level := holds_of_get hf hlevel
    format := holds_of_get hf hformat }

structure HoldsSettings (t : Tree) (s : Settings) : Prop where
  environment : Holds t "environment" (oneNamed "Environment" Environment.all) s.environment
  server : Holds t "server" serverOf s.server
  database : Holds t "database" databaseOf s.database
  cache : Holds t "cache" cacheOf s.cache
  auth : Holds t "auth" authOf s.auth
  orders : Holds t "orders" ordersOf s.orders
  logging : Holds t "logging" loggingOf s.logging

theorem holds_ofTree {s : Settings} (h : ofTree t = .ok s) : HoldsSettings t s := by
  obtain ⟨f, hf, h⟩ := of_bind_ok h
  obtain ⟨environment, henvironment, h⟩ := of_bind_ok h
  obtain ⟨server, hserver, h⟩ := of_bind_ok h
  obtain ⟨database, hdatabase, h⟩ := of_bind_ok h
  obtain ⟨cache, hcache, h⟩ := of_bind_ok h
  obtain ⟨auth, hauth, h⟩ := of_bind_ok h
  obtain ⟨orders, horders, h⟩ := of_bind_ok h
  obtain ⟨logging, hlogging, h⟩ := of_bind_ok h
  obtain rfl := Except.ok.inj h
  exact {
    environment := holds_of_get hf henvironment
    server := holds_of_get hf hserver
    database := holds_of_get hf hdatabase
    cache := holds_of_get hf hcache
    auth := holds_of_get hf hauth
    orders := holds_of_get hf horders
    logging := holds_of_get hf hlogging }

end Records

theorem reads_server : Reads ofTree ["server"] serverOf Settings.server :=
  fun h => (holds_ofTree h).server _

theorem reads_database : Reads ofTree ["database"] databaseOf Settings.database :=
  fun h => (holds_ofTree h).database _

theorem reads_cache : Reads ofTree ["cache"] cacheOf Settings.cache :=
  fun h => (holds_ofTree h).cache _

theorem reads_auth : Reads ofTree ["auth"] authOf Settings.auth :=
  fun h => (holds_ofTree h).auth _

theorem reads_token : Reads ofTree ["auth", "jwt"] tokenOf fun s => s.auth.token :=
  reads_auth.trans fun h => (holds_authOf h).token _

theorem reads_orders : Reads ofTree ["orders"] ordersOf Settings.orders :=
  fun h => (holds_ofTree h).orders _

theorem reads_logging : Reads ofTree ["logging"] loggingOf Settings.logging :=
  fun h => (holds_ofTree h).logging _

/-- Of a table, only the name of its only member is looked at. -/
def SeesNames (typed : Typed α) : Prop :=
  ∀ (origin : Option String) (ms : List (String × Tree)) (a : α),
    typed (.table origin ms) = .ok a → ∃ name t, ms = [(name, t)] ∧
      ∀ origin' t', typed (.table origin' [(name, t')]) = .ok a

/-- What is seen in a value is read as the value is. -/
theorem SeesNames.of_seenIn {typed : Typed α} (h : SeesNames typed) {t u : Tree} {a : α}
    (hseen : Tree.SeenIn t u) (hu : typed u = .ok a) : typed t = .ok a := by
  cases hseen with
  | same hscalar => exact hu
  | @members origin origin' said found hsome hnodup hsub =>
    obtain ⟨name, value, rfl, hnamed⟩ := h _ _ _ hu
    have hname : ∀ m ∈ said, m.1 = name := fun m hm => by
      simpa using hsub (List.mem_map_of_mem hm)
    match said with
    | [] => exact absurd rfl hsome
    | [(k, t)] =>
      obtain rfl := hname (k, t) List.mem_cons_self
      exact hnamed origin t
    | m :: m' :: ms =>
      -- two members by the same name would not be told apart
      have hfirst : m.1 = name := hname m (by simp)
      have hsecond : m'.1 = name := hname m' (by simp)
      rw [List.map_cons, List.map_cons, hfirst, hsecond, List.nodup_cons] at hnodup
      exact absurd List.mem_cons_self hnodup.1

theorem seesNames_of_refused {typed : Typed α}
    (h : ∀ origin ms a, typed (.table origin ms) ≠ .ok a) : SeesNames typed :=
  fun _ _ _ hread => absurd hread (h _ _ _)

theorem seesNames_text : SeesNames text := seesNames_of_refused fun _ _ _ h => by cases h

theorem seesNames_natural (bound : Nat) : SeesNames (natural bound) :=
  seesNames_of_refused fun _ _ _ h => by cases h

theorem seesNames_int64 : SeesNames int64 := seesNames_of_refused fun _ _ _ h => by cases h

theorem seesNames_boolean : SeesNames boolean := seesNames_of_refused fun _ _ _ h => by cases h

theorem seesNames_list (part : Typed α) : SeesNames (list part) :=
  seesNames_of_refused fun _ _ _ h => by cases h

theorem seesNames_oneNamed (title : String) (variants : List (String × α)) :
    SeesNames (oneNamed title variants) := by
  intro origin ms a h
  match ms with
  | [] => cases h
  | [(name, t)] => exact ⟨name, t, rfl, fun _ _ => h⟩
  | _ :: _ :: _ => cases h

end Typed

namespace Setting

variable {α : Type}

/-- The setting is what stands under its names, read in its way. -/
theorem reads (σ : Setting α) : Typed.Reads ofTree σ.names σ.typed σ.get := by
  cases σ with
  | environment => exact fun h => (Typed.holds_ofTree h).environment _
  | host => exact Typed.reads_server.trans fun h => (Typed.holds_serverOf h).host _
  | port => exact Typed.reads_server.trans fun h => (Typed.holds_serverOf h).port _
  | workers => exact Typed.reads_server.trans fun h => (Typed.holds_serverOf h).workers _
  | shutdownTimeout =>
    exact Typed.reads_server.trans fun h => (Typed.holds_serverOf h).shutdownTimeout _
  | keepAlive => exact Typed.reads_server.trans fun h => (Typed.holds_serverOf h).keepAlive _
  | allowedOrigins =>
    exact Typed.reads_server.trans fun h => (Typed.holds_serverOf h).allowedOrigins _
  | databaseUrl => exact Typed.reads_database.trans fun h => (Typed.holds_databaseOf h).url _
  | maxConnections =>
    exact Typed.reads_database.trans fun h => (Typed.holds_databaseOf h).maxConnections _
  | connectTimeout =>
    exact Typed.reads_database.trans fun h => (Typed.holds_databaseOf h).connectTimeout _
  | idleTimeout =>
    exact Typed.reads_database.trans fun h => (Typed.holds_databaseOf h).idleTimeout _
  | maxLifetime =>
    exact Typed.reads_database.trans fun h => (Typed.holds_databaseOf h).maxLifetime _
  | runMigrations =>
    exact Typed.reads_database.trans fun h => (Typed.holds_databaseOf h).runMigrations _
  | slowQueryThreshold =>
    exact Typed.reads_database.trans fun h => (Typed.holds_databaseOf h).slowQueryThreshold _
  | cacheUrl => exact Typed.reads_cache.trans fun h => (Typed.holds_cacheOf h).url _
  | connectionTimeout =>
    exact Typed.reads_cache.trans fun h => (Typed.holds_cacheOf h).connectionTimeout _
  | maxRetries => exact Typed.reads_cache.trans fun h => (Typed.holds_cacheOf h).maxRetries _
  | retryDelay => exact Typed.reads_cache.trans fun h => (Typed.holds_cacheOf h).retryDelay _
  | secret =>
    exact Typed.reads_token.trans fun h => (Typed.holds_tokenOf h).secret _
  | accessLifetime =>
    exact Typed.reads_token.trans fun h => (Typed.holds_tokenOf h).accessLifetime _
  | refreshLifetime =>
    exact Typed.reads_token.trans fun h => (Typed.holds_tokenOf h).refreshLifetime _
  | cacheLifetime => exact Typed.reads_auth.trans fun h => (Typed.holds_authOf h).cacheLifetime _
  | hashCost => exact Typed.reads_auth.trans fun h => (Typed.holds_authOf h).hashCost _
  | lead => exact Typed.reads_orders.trans fun h => (Typed.holds_ordersOf h).lead _
  | homeCity => exact Typed.reads_orders.trans fun h => (Typed.holds_ordersOf h).homeCity _
  | defaultPageSize =>
    exact Typed.reads_orders.trans fun h => (Typed.holds_ordersOf h).defaultPageSize _
  | maxPageSize => exact Typed.reads_orders.trans fun h => (Typed.holds_ordersOf h).maxPageSize _
  | level => exact Typed.reads_logging.trans fun h => (Typed.holds_loggingOf h).level _
  | format => exact Typed.reads_logging.trans fun h => (Typed.holds_loggingOf h).format _

theorem seesNames (σ : Setting α) : Typed.SeesNames σ.typed := by
  cases σ with
  | environment | format => exact Typed.seesNames_oneNamed _ _
  | host | databaseUrl | cacheUrl | secret | lead | level => exact Typed.seesNames_text
  | allowedOrigins => exact Typed.seesNames_list _
  | runMigrations => exact Typed.seesNames_boolean
  | accessLifetime | refreshLifetime | homeCity => exact Typed.seesNames_int64
  | _ => exact Typed.seesNames_natural _

/-- What the defaults of an environment say about a setting is read back as the default. -/
theorem typed_default (σ : Setting α) (e : Environment) :
    ((Tree.ofJson none (ofEnvironment e).toJson).tells? σ.names).map σ.typed =
      some (.ok (σ.get (ofEnvironment e))) := by
  cases e <;> cases σ <;> decide +kernel

/-- No setting is left out: settings that agree on every single one are the same. -/
theorem eq_of_get_eq {s s' : Settings} (h : ∀ {α : Type} (σ : Setting α), σ.get s = σ.get s') :
    s = s' := by
  obtain ⟨_, ⟨_, _, _, _, _, _⟩, ⟨_, _, _, _, _, _, _⟩, ⟨_, _, _, _⟩, ⟨⟨_, _, _⟩, _, _⟩,
    ⟨_, _, _, _⟩, ⟨_, _⟩⟩ := s
  obtain ⟨_, ⟨_, _, _, _, _, _⟩, ⟨_, _, _, _, _, _, _⟩, ⟨_, _, _, _⟩, ⟨⟨_, _, _⟩, _, _⟩,
    ⟨_, _, _, _⟩, ⟨_, _⟩⟩ := s'
  simp only [mk.injEq, ServerSettings.mk.injEq, DatabaseSettings.mk.injEq, CacheSettings.mk.injEq,
    AuthSettings.mk.injEq, TokenSettings.mk.injEq, OrderSettings.mk.injEq, LogSettings.mk.injEq]
  exact ⟨h environment,
    ⟨h host, h port, h workers, h shutdownTimeout, h keepAlive, h allowedOrigins⟩,
    ⟨h databaseUrl, h maxConnections, h connectTimeout, h idleTimeout, h maxLifetime,
      h runMigrations, h slowQueryThreshold⟩,
    ⟨h cacheUrl, h connectionTimeout, h maxRetries, h retryDelay⟩,
    ⟨⟨h secret, h accessLifetime, h refreshLifetime⟩, h cacheLifetime, h hashCost⟩,
    ⟨h lead, h homeCity, h defaultPageSize, h maxPageSize⟩, ⟨h level, h format⟩⟩

end Setting

end ParcelDesk.Settings
