import ParcelDesk.Proofs.Interleavings

/-!
Tokens that are saved once. No id of a token is drawn twice, and a visit saves tokens for the ids
that it drew itself. So no two rows are about one token, however the visits take turns.
-/

namespace ParcelDesk.Desk

namespace Log

variable {log other : Log} {i j : Nat} {id : String}

def drawn (log : Log) : List String := log.filterMap fun e => e.2.drawn?

def saved (log : Log) : List StoredToken := log.filterMap fun e => e.2.saved?

@[simp]
theorem drawn_append : drawn (log ++ other) = log.drawn ++ other.drawn := List.filterMap_append

@[simp]
theorem saved_append : saved (log ++ other) = log.saved ++ other.saved := List.filterMap_append

theorem drawn_own (i : Nat) (acts : List Act) :
    drawn (acts.map fun act => (i, act)) = acts.filterMap Act.drawn? := List.filterMap_map

theorem saved_own (i : Nat) (acts : List Act) :
    saved (acts.map fun act => (i, act)) = acts.filterMap Act.saved? := List.filterMap_map

theorem mem_drawn (h : (i, .draw id) ∈ log) : id ∈ log.drawn :=
  List.mem_filterMap.mpr ⟨_, h, rfl⟩

/-- What one visit drew is a part of what all drew. -/
theorem drawn_ofVisit (log : Log) (i : Nat) :
    ((log.ofVisit i).filterMap Act.drawn?).Sublist log.drawn := by
  induction log with
  | nil => exact List.Sublist.refl []
  | cons e log ih =>
    obtain ⟨j, act⟩ := e
    have hskip : ((Log.ofVisit log i).filterMap Act.drawn?).Sublist (drawn ((j, act) :: log)) :=
      ih.trans ((List.sublist_cons_self (j, act) log).filterMap _)
    by_cases hj : j = i
    · subst hj
      rw [ofVisit_cons_self]
      cases hdrawn : act.drawn? with
      | none => rwa [List.filterMap_cons_none hdrawn]
      | some id =>
        have hnext : drawn ((j, act) :: log) = id :: drawn log := List.filterMap_cons_some hdrawn
        rw [List.filterMap_cons_some hdrawn, hnext]
        exact ih.cons_cons id
    · rwa [ofVisit_cons_of_ne hj]

/-- Only one visit has drawn an id, if none comes up twice. -/
theorem same_visit (hdrawn : log.drawn.Nodup) (hi : (i, .draw id) ∈ log)
    (hj : (j, .draw id) ∈ log) : i = j := by
  obtain ⟨before, after, rfl⟩ := List.append_of_mem hi
  have hsplit : drawn (before ++ (i, .draw id) :: after) =
      drawn before ++ id :: drawn after := drawn_append
  rw [hsplit, List.nodup_middle, List.nodup_cons, List.mem_append, not_or] at hdrawn
  obtain hbefore | hbehind := List.mem_append.mp hj
  · exact absurd (mem_drawn hbefore) hdrawn.1.1
  · obtain hsame | hafter := List.mem_cons.mp hbehind
    · exact (Prod.mk.inj hsame).1.symm
    · exact absurd (mem_drawn hafter) hdrawn.1.2

end Log

theorem Act.of_saved? {act : Act} {t : StoredToken} (h : act.saved? = some t) : act = .save t := by
  cases act with
  | save u => rw [Option.some.inj h]
  | _ => cases h

/-- Where no id is drawn twice, no token is saved twice. -/
theorem nodup_saved {log : Log} (hcourse : ∀ i, Course (log.ofVisit i))
    (hdrawn : log.drawn.Nodup) : (log.saved.map StoredToken.token).Nodup := by
  rw [List.Nodup, List.pairwise_map, Log.saved, List.pairwise_filterMap,
    List.pairwise_iff_forall_sublist]
  rintro ⟨i, x⟩ ⟨j, y⟩ hsub t ht u hu hsame
  obtain rfl := Act.of_saved? ht
  obtain rfl := Act.of_saved? hu
  -- both tokens are for the same id, so one visit saved both
  obtain ⟨one, hone, hfirst⟩ :=
    (hcourse i).draws (Log.mem_ofVisit.mpr (hsub.subset List.mem_cons_self))
  obtain ⟨two, htwo, hsecond⟩ := (hcourse j).draws
    (Log.mem_ofVisit.mpr (hsub.subset (List.mem_cons_of_mem _ List.mem_cons_self)))
  obtain rfl := hfirst.unique hsecond hsame
  obtain rfl := Log.same_visit hdrawn (Log.mem_ofVisit.mp hone) (Log.mem_ofVisit.mp htwo)
  have hown := (hcourse i).saves_apart (hdrawn.sublist (Log.drawn_ofVisit log i))
  have hparts : [Act.save t, .save u].Sublist (log.ofVisit i) :=
    Log.ofVisit_own i [.save t, .save u] ▸ hsub.filterMap _
  have hboth : [t, u].Sublist ((log.ofVisit i).filterMap Act.saved?) := hparts.filterMap Act.saved?
  have hpair := hown.sublist (hboth.map StoredToken.token)
  simp [hsame] at hpair

/-- The log tells which ids were drawn and which tokens were saved. -/
structure Log.Counts (log : Log) (w : World) : Prop where
  tokenId : Function.Injective w.chance.tokenId
  drawn : log.drawn.Nodup
  bounded : ∀ id ∈ log.drawn, ∃ n < w.chance.tokenIds, w.chance.tokenId n = id
  saved : log.saved.map StoredToken.token = w.tokens.rows.map StoredToken.token

theorem counts_nil {w : World} (hfresh : w.IsFresh) : Log.Counts [] w where
  tokenId := hfresh.tokenId
  drawn := List.nodup_nil
  bounded id hid := absurd hid List.not_mem_nil
  saved := by
    rw [hfresh.rows]
    rfl

section Step

variable {log : Log} {w v : World} {i : Nat}

/-- Acts that neither draw nor save keep the counts. -/
theorem Log.Counts.aside (h : log.Counts w) {acts : List Act}
    (hdrawn : acts.filterMap Act.drawn? = []) (hsaved : acts.filterMap Act.saved? = [])
    (htokenId : v.chance.tokenId = w.chance.tokenId)
    (htokenIds : v.chance.tokenIds = w.chance.tokenIds)
    (hrows : v.tokens.rows.map StoredToken.token = w.tokens.rows.map StoredToken.token) :
    Log.Counts (log ++ acts.map fun act => (i, act)) v where
  tokenId := htokenId ▸ h.tokenId
  drawn := by
    rw [Log.drawn_append, Log.drawn_own, hdrawn, List.append_nil]
    exact h.drawn
  bounded := by
    rw [Log.drawn_append, Log.drawn_own, hdrawn, List.append_nil, htokenId, htokenIds]
    exact h.bounded
  saved := by
    rw [Log.saved_append, Log.saved_own, hsaved, List.append_nil, hrows]
    exact h.saved

theorem revokedOf_token (kind : TokenKind) (userId : Int) (now : Instant) (t : StoredToken) :
    (revokedOf kind userId now t).token = t.token := by
  unfold revokedOf
  split <;> rfl

theorem counts_draw (h : log.Counts w) :
    Log.Counts (log ++ [(i, .draw (w.chance.tokenId w.chance.tokenIds))])
      (World.serve .tokenId w).2 where
  tokenId := h.tokenId
  drawn := by
    rw [Log.drawn_append]
    refine List.nodup_append.mpr ⟨h.drawn, List.nodup_singleton _, fun id hid other hother => ?_⟩
    obtain ⟨n, hn, rfl⟩ := h.bounded id hid
    rw [List.mem_singleton.mp hother]
    exact fun hsame => Nat.ne_of_lt hn (h.tokenId hsame)
  bounded id hid := by
    rw [Log.drawn_append] at hid
    obtain hold | hnew := List.mem_append.mp hid
    · obtain ⟨n, hn, hdrawn⟩ := h.bounded id hold
      exact ⟨n, Nat.lt_succ_of_lt hn, hdrawn⟩
    · exact ⟨w.chance.tokenIds, Nat.lt_succ_self _, (List.mem_singleton.mp hnew).symm⟩
  saved := by
    rw [Log.saved_append]
    exact (congrArg _ (List.append_nil _)).trans h.saved

theorem counts_save (h : log.Counts w) (t : StoredToken) (id : Int) (hchance : v.chance = w.chance)
    (hrows : v.tokens.rows = w.tokens.rows ++ [{ t with id }]) :
    Log.Counts (log ++ [(i, .save t)]) v where
  tokenId := hchance ▸ h.tokenId
  drawn := by
    rw [Log.drawn_append]
    exact (List.append_nil _).symm ▸ h.drawn
  bounded := by
    rw [Log.drawn_append, hchance]
    exact (List.append_nil _).symm ▸ h.bounded
  saved := by
    rw [Log.saved_append, hrows, List.map_append, List.map_append, h.saved]
    rfl

/-- Whatever a call does is counted. -/
theorem counts_serve {β : Type} (h : log.Counts w) (hup : w.InReach) (c : Call β) :
    Log.Counts (log ++ (c.act? (World.serve c w).1).toList.map fun act => (i, act))
      (World.serve c w).2 := by
  cases c with
  | tokenId => exact counts_draw h
  | saveToken t =>
    simp only [World.serve, TokenStore.save, hup.tokens, Bool.false_eq_true, ↓reduceIte,
      World.withTokens]
    exact counts_save h t _ rfl rfl
  | revokeTokens kind userId =>
    simp only [World.serve, TokenStore.revokeAll, hup.tokens, Bool.false_eq_true, ↓reduceIte,
      World.withTokens]
    refine h.aside rfl rfl rfl rfl ?_
    rw [List.map_map]
    exact List.map_congr_left fun t _ => revokedOf_token kind userId w.clock t
  | findToken kind userId token =>
    simp only [World.serve]
    cases w.tokens.findActive w.clock kind userId token with
    | error e => exact h.aside rfl rfl rfl rfl rfl
    | ok found => cases found <;> exact h.aside rfl rfl rfl rfl rfl
  | cache key value seconds =>
    simp only [World.serve, Cache.Memory.set, Cache.Memory.change_of_isUp hup.cache,
      World.withCache]
    exact h.aside rfl rfl rfl rfl rfl
  | uncache key =>
    simp only [World.serve, Cache.Memory.delete, Cache.Memory.change_of_isUp hup.cache,
      World.withCache]
    exact h.aside rfl rfl rfl rfl rfl
  | _ => exact h.aside rfl rfl rfl rfl rfl

end Step

namespace Hall

variable {rules : SessionRules} {visits : List Visit} {h : Hall}

theorem counts_step (hsound : h.Sound rules visits) (hcounts : h.log.Counts h.world)
    (turn : Turn) : (h.step turn).log.Counts (h.step turn).world := by
  cases turn with
  | serve i =>
    rw [step]
    split
    · exact counts_serve hcounts hsound.inReach _
    · exact hcounts
  | advance ms => exact ⟨hcounts.tokenId, hcounts.drawn, hcounts.bounded, hcounts.saved⟩
  | setClock now => exact ⟨hcounts.tokenId, hcounts.drawn, hcounts.bounded, hcounts.saved⟩

theorem counts_run (hsound : h.Sound rules visits) (hcounts : h.log.Counts h.world)
    (turns : List Turn) : (h.run turns).log.Counts (h.run turns).world := by
  induction turns generalizing h with
  | nil => exact hcounts
  | cons turn turns ih => exact ih (sound_step hsound turn) (counts_step hsound hcounts turn)

end Hall

end ParcelDesk.Desk
