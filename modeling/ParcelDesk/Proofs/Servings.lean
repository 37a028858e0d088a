import ParcelDesk.Proofs.Interleavings
import ParcelDesk.Proofs.Logins

/-!
A visit that makes several calls in a row. What becomes of it and of the world is what the task says
on its own, whatever the other visits are about. A login needs one call to find the account, and a
gate three to find a token that the cache does not know.
-/

namespace ParcelDesk

/-- The task and the state after some calls, or after fewer if the task has come to its end. -/
def Task.runFor {Call : Type → Type} {α σ : Type} (serve : {β : Type} → Call β → σ → β × σ) :
    Nat → Task Call α → σ → Task Call α × σ
  | 0, t, s => (t, s)
  | _ + 1, .done a, s => (.done a, s)
  | n + 1, .call c next, s => runFor serve n (next (serve c s).1) (serve c s).2

theorem Task.runFor_done {Call : Type → Type} {α σ : Type}
    (serve : {β : Type} → Call β → σ → β × σ) (n : Nat) (a : α) (s : σ) :
    (done a : Task Call α).runFor serve n s = (done a, s) := by
  cases n <;> rfl

namespace Desk

open World

variable {w v : World}

theorem Hall.run_append (h : Hall) (first second : List Turn) :
    h.run (first ++ second) = (h.run first).run second := List.foldl_append

theorem Hall.run_cons (h : Hall) (turn : Turn) (turns : List Turn) :
    h.run (turn :: turns) = (h.step turn).run turns := rfl

/-- A visit makes some calls in a row. -/
theorem Hall.run_replicate {visits : List (Task Call Unit)} {log : Log} {i n : Nat}
    {t u : Task Call Unit} (ht : visits[i]? = some t) (hrun : t.runFor World.serve n w = (u, v)) :
    ∃ log', Hall.run ⟨w, visits, log⟩ (List.replicate n (.serve i)) =
      ⟨v, visits.set i u, log'⟩ := by
  induction n generalizing w visits log t with
  | zero =>
    obtain ⟨rfl, rfl⟩ := Prod.mk.inj hrun
    obtain ⟨hi, rfl⟩ := List.getElem?_eq_some_iff.mp ht
    refine ⟨log, ?_⟩
    rw [List.set_getElem_self]
    rfl
  | succ n ih =>
    rw [List.replicate_succ, Hall.run_cons]
    cases t with
    | done a =>
      have hstep : Hall.step ⟨w, visits, log⟩ (.serve i) = ⟨w, visits, log⟩ := by
        simp only [Hall.step, ht]
      rw [hstep]
      exact ih ht (Task.runFor_done World.serve n a w ▸ hrun)
    | call c next =>
      have hstep : Hall.step ⟨w, visits, log⟩ (.serve i) = ⟨(World.serve c w).2,
          visits.set i (next (World.serve c w).1),
          log ++ (c.act? (World.serve c w).1).toList.map fun act => (i, act)⟩ := by
        simp only [Hall.step, ht]
      have hnext := List.getElem?_set_self (a := next (World.serve c w).1)
        (List.getElem?_eq_some_iff.mp ht).1
      obtain ⟨log', hlog⟩ := ih hnext hrun
      refine ⟨log', ?_⟩
      rw [hstep]
      refine hlog.trans ?_
      rw [List.set_set]

/-- The cache names the owner that it was just told. -/
theorem mirrors_remembered (hup : w.cache.isDown = false) {r : SessionRules}
    (hlifetime : 0 < r.cacheLifetime) (token : String) (userId : Int) :
    (w.remembered r .access token userId).Mirrors token userId where
  inReach := (remembered_cache_isDown r .access token userId w).trans hup
  owner := by
    rw [Cache.Memory.text?, remembered_cache_clock, remembered, Cache.Memory.lookup_set_self hup]
    simp [Option.filter, hlifetime]

/-- A sign-in leaves open tokens as they are. -/
theorem accepted_signedIn_of_live {r : SessionRules} {token : String} {c : Claims}
    (hup : w.tokens.isDown = false)
    (hverify : Jwt.verify r.token.secret w.clock token = .ok c) (hlive : w.Live token c.userId)
    (userId : Int) : (w.signedIn r userId).answer (authenticate r token) = .ok c := by
  obtain ⟨t, ht, hfits⟩ := hlive
  have hmem : t ∈ (w.signedIn r userId).tokens.rows := by
    rw [rows_signedIn hup]
    exact List.mem_append_left _ ht
  rw [authenticate_iff]
  exact ⟨hverify, .inr ⟨(signedIn_tokens_isDown r userId w).trans hup, t, hmem, hfits⟩⟩

/-- The token of a sign-in is accepted at once. -/
theorem accepted_signedIn {r : SessionRules} {userId : Int} {c : Claims}
    (hup : w.cache.isDown = false) (hlifetime : 0 < r.cacheLifetime)
    (hverify : Jwt.verify r.token.secret w.clock (w.pair r.token userId).access.text = .ok c)
    (howner : c.userId = userId) :
    (w.signedIn r userId).answer
      (authenticate r (w.pair r.token userId).access.text) = .ok c := by
  rw [authenticate_iff]
  exact ⟨hverify, .inl (howner ▸ mirrors_signedIn hup hlifetime userId)⟩

/-- It takes one call to find out who logs in. -/
theorem runFor_identify {α : Type} {f : LoginForm} {u : User}
    (hwho : w.answer (identify f) = .ok u) (next : User → Work α) (n : Nat) :
    (ended (identify f >>= next)).runFor World.serve (n + 1) w =
      (ended (next u)).runFor World.serve n w := by
  unfold World.answer identify at hwho
  unfold identify
  dsimp only at hwho ⊢
  split at hwho
  · cases hwho
  rename_i hgiven
  have hstep (found : Option User → Work User) :
      (ended (Attempt.of (.findUser f.identifiers.1 f.identifiers.2) >>= found >>= next)).runFor
        World.serve (n + 1) w =
      (ended (found (w.users.find f.identifiers.1 f.identifiers.2) >>= next)).runFor
        World.serve n w := rfl
  rw [perform_bind, perform_of] at hwho
  simp only [serve] at hwho
  rw [if_neg hgiven, hstep]
  cases hfind : w.users.find f.identifiers.1 f.identifiers.2 with
  | none =>
    rw [hfind] at hwho
    cases hwho
  | some found =>
    rw [hfind] at hwho
    dsimp only at hwho ⊢
    split at hwho
    · rename_i hverify
      obtain rfl := Except.ok.inj hwho
      rw [if_pos hverify]
      rfl
    · cases hwho

def noted (r : SessionRules) (token : String) (c : Claims) : Task Call Unit :=
  ended (do
    bestEffort (.cache (Cache.tokenKey .access token) (ownerText c.userId) r.cacheLifetime)
    pure c)

/-- After three calls the gate has found a token that the cache does not know. -/
theorem runFor_gate {r : SessionRules} {token : String} {c : Claims}
    (hverify : Jwt.verify r.token.secret w.clock token = .ok c)
    (hmirror : ¬ w.Mirrors token c.userId) (hup : w.tokens.isDown = false)
    (hlive : w.Live token c.userId) :
    (ended (authenticate r token)).runFor World.serve 3 w = (noted r token c, w) := by
  obtain ⟨t, hfound⟩ := (findActive_iff hup token c.userId).mpr hlive
  have hnow (next : Instant → Work Claims) : (ended (ask .now >>= next)).runFor World.serve 3 w =
      (ended (next w.clock)).runFor World.serve 2 w := rfl
  have hcached (next : Except Cache.Outage (Option String) → Work Claims) :
      (ended (ask (.cached (Cache.tokenKey .access token)) >>= next)).runFor World.serve 2 w =
        (ended (next (w.cache.get (Cache.tokenKey .access token)))).runFor World.serve 1 w := rfl
  have hfind (next : Except Failure (Option StoredToken) → Task Call (Except Failure Claims)) :
      (ended (ExceptT.mk (Task.of (.findToken .access c.userId token) >>= next))).runFor
        World.serve 1 w = (ended (ExceptT.mk (next (.ok (some t)))), w) := by
    rw [← hfound]
    rfl
  rw [authenticate, hnow, hverify]
  refine (hcached _).trans ?_
  rw [if_neg fun hknown => hmirror ((mirrors_iff w token c.userId).mp hknown)]
  exact hfind _

end Desk

end ParcelDesk
