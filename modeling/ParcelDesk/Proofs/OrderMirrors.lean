import Mathlib.Data.List.Induction
import ParcelDesk.Proofs.DeskRuns
import ParcelDesk.Proofs.OrderCalls
import ParcelDesk.Proofs.OrderHistory
import ParcelDesk.Proofs.OrderLedger

/-!
Which orders the cache mirrors. An order comes into the cache when it is taken in while the cache is
in reach, and goes when somebody asks for its cancellation while store and cache are in reach, be it
the owner or not. Nothing else makes a difference, as the keys of tokens and sessions are never
those of orders. So over a run the hash and the index always agree, and hold what was taken in, as
it was taken in.
-/

namespace ParcelDesk

/-- Consignment ids stay taken. -/
theorem OrderStore.Ages.isTaken {s t : OrderStore} (h : s.Ages t) {consignmentId : String}
    (htaken : s.isTaken consignmentId = true) : t.isTaken consignmentId = true := by
  obtain ⟨row, hrow, hid⟩ := List.any_eq_true.mp htaken
  obtain ⟨i, hi⟩ := List.mem_iff_getElem?.mp hrow
  obtain ⟨later, hlater, hages⟩ := h i row hi
  refine List.any_eq_true.mpr ⟨later, List.mem_of_getElem? hlater, ?_⟩
  rw [hages.same]
  exact hid

namespace Desk

open World

section Sessions

variable (r : SessionRules) (userId : Int) (w : World) (id : String)

/-- Sessions leave what the cache keeps of orders alone. -/
theorem recorded_signedIn : (w.signedIn r userId).cache.recorded id = w.cache.recorded id := by
  simp [signedIn, World.kept, remembered, drawn]

theorem recorded_signedOut : (w.signedOut userId).cache.recorded id = w.cache.recorded id := by
  refine Cache.Memory.recorded_deleteAll (fun key hkey => ?_) w.cache id
  rcases List.mem_cons.mp hkey with rfl | htoken
  · exact Cache.notOfOrders_sessionKey userId
  · obtain ⟨t, -, rfl⟩ := List.mem_map.mp htoken
    exact Cache.notOfOrders_tokenKey t.kind t.token

theorem recorded_after_login (f : LoginForm) :
    (w.after (login r f)).cache.recorded id = w.cache.recorded id := by
  obtain ⟨n, hdrawn⟩ | ⟨u, -, -, hafter⟩ := after_login w r f
  · rw [hdrawn]
    rfl
  · rw [hafter, recorded_signedIn, World.cleared]
    split
    · exact recorded_signedOut u.id w id
    · rfl

theorem recorded_after_logout :
    (w.after (logout userId)).cache.recorded id = w.cache.recorded id := by
  obtain hsame | ⟨-, hafter⟩ := after_logout w userId
  · rw [hsame]
  · rw [hafter, recorded_signedOut]

theorem recorded_after_authenticate (token : String) :
    (w.after (authenticate r token)).cache.recorded id = w.cache.recorded id := by
  obtain hsame | ⟨userId, -, hremind⟩ := after_authenticate w r token
  · rw [hsame]
  · rw [hremind]
    exact Cache.Memory.recorded_set _ _ _ _ _

end Sessions

def Setup.Inserts (s : Setup) (w : World) (o : Order) : Event → Prop
  | .createOrder d userId => w.answer (createOrder s.orders d userId) = .ok o.receipt ∧
      (w.after (createOrder s.orders d userId)).orders.rows = w.orders.rows ++ [o]
  | _ => False

/-- The event asks for the cancellation of an order while the store and the cache are in reach,
whoever asks and whatever comes of it. -/
def World.Evicts (w : World) (consignmentId : String) : Event → Prop
  | .cancelOrder asked _ => asked = consignmentId ∧ w.orders.isDown = false ∧
      w.cache.isDown = false
  | _ => False

/-- The run takes the order in while the cache is in reach, and does not evict it later. -/
def Setup.LeavesMirrored (s : Setup) (w : World) (es : List Event) (o : Order) : Prop :=
  ∃ before e after, es = before ++ e :: after ∧ s.Inserts (s.run w before) o e ∧
    (s.run w before).cache.isDown = false ∧
    s.Throughout (fun v f => ¬ v.Evicts o.consignmentId f) (s.step (s.run w before) e) after

/-- One more event leaves mirrored what was mirrored, unless it evicts it, and what it takes in. -/
theorem Setup.leavesMirrored_concat {s : Setup} {w : World} {es : List Event} {e : Event}
    {o : Order} :
    s.LeavesMirrored w (es ++ [e]) o ↔
      s.LeavesMirrored w es o ∧ ¬ (s.run w es).Evicts o.consignmentId e ∨
        s.Inserts (s.run w es) o e ∧ (s.run w es).cache.isDown = false := by
  constructor
  · rintro ⟨before, f, after, hsplit, hinserts, hup, hstays⟩
    obtain ⟨rfl, rfl, -⟩ | ⟨middle, rfl, rfl⟩ := split_concat hsplit
    · exact .inr ⟨hinserts, hup⟩
    · obtain ⟨hmiddle, hlast⟩ := throughout_concat.mp hstays
      rw [run_append, run_cons]
      exact .inl ⟨⟨before, f, middle, rfl, hinserts, hup, hmiddle⟩, hlast⟩
  · rintro (⟨⟨before, f, after, rfl, hinserts, hup, hstays⟩, hkept⟩ | ⟨hinserts, hup⟩)
    · rw [run_append, run_cons] at hkept
      exact ⟨before, f, after ++ [e], by simp, hinserts, hup,
        throughout_concat.mpr ⟨hstays, hkept⟩⟩
    · exact ⟨es, e, [], rfl, hinserts, hup, throughout_nil _ _⟩

/-- An event inserts one order at most. -/
theorem Setup.Inserts.unique {s : Setup} {w : World} {o v : Order} {e : Event}
    (ho : s.Inserts w o e) (hv : s.Inserts w v e) : o = v := by
  cases e with
  | createOrder d userId =>
    exact List.singleton_inj.mp (List.append_cancel_left (ho.2.symm.trans hv.2))
  | _ => exact ho.elim

/-- A draft is refused and nothing changes for the cache, or its order is inserted under an id that
was free and shown to the cache. -/
theorem inserts_createOrder (s : Setup) (w : World) (d : Draft) (userId : Int) :
    ((∀ o, ¬ s.Inserts w o (.createOrder d userId)) ∧
      (s.step w (.createOrder d userId)).cache = w.cache) ∨
    ∃ o, s.Inserts w o (.createOrder d userId) ∧ w.orders.isTaken o.consignmentId = false ∧
      (s.step w (.createOrder d userId)).cache = (w.cache.mirror o).2 := by
  have htakes := takes_createOrder s.orders d userId w
  simp only [Setup.Inserts, Setup.step, World.answer, World.after]
  generalize w.perform (createOrder s.orders d userId) = r at htakes
  cases htakes with
  | refused e suffixes collisions =>
    left
    refine ⟨fun o h => ?_, rfl⟩
    cases h.1
  | @taken draw suffixes collisions o hdrawn hvalid hup hfree =>
    right
    exact ⟨w.orders.numbered o, ⟨rfl, rfl⟩, hfree, rfl⟩

/-- What the cache keeps of an order after an event: the order as it was inserted, nothing, or what
it kept before. -/
inductive Setup.Records (s : Setup) (w : World) (consignmentId : String) (e : Event) :
    Option (List (String × String)) × List (Int × String) → Prop
  | shown {o : Order} (hinserts : s.Inserts w o e) (hup : w.cache.isDown = false)
      (hid : o.consignmentId = consignmentId) :
      s.Records w consignmentId e
        (some (Cache.orderFields o), [(o.createdAt.seconds, o.consignmentId)])
  | evicted (hevicts : w.Evicts consignmentId e) : s.Records w consignmentId e (none, [])
  | same (hinserts : ∀ o, s.Inserts w o e → w.cache.isDown = false →
        o.consignmentId ≠ consignmentId)
      (hevicts : ¬ w.Evicts consignmentId e) :
      s.Records w consignmentId e (w.cache.recorded consignmentId)

theorem records_createOrder (s : Setup) (w : World) (consignmentId : String) (d : Draft)
    (userId : Int) :
    s.Records w consignmentId (.createOrder d userId)
      ((s.step w (.createOrder d userId)).cache.recorded consignmentId) := by
  obtain ⟨hnone, hcache⟩ | ⟨o, hinserts, -, hcache⟩ := inserts_createOrder s w d userId
  · rw [hcache]
    exact .same (fun o h => absurd h (hnone o)) not_false
  rw [hcache]
  cases hdown : w.cache.isDown with
  | true =>
    rw [Cache.Memory.mirror, Cache.Memory.change_of_isDown hdown]
    exact .same (fun _ _ hup => by simp [hdown] at hup) not_false
  | false =>
    rw [Cache.Memory.recorded_mirror hdown]
    split
    · rename_i hid
      exact .shown hinserts hdown hid.symm
    · rename_i hid
      exact .same (fun v hv _ hsame => hid (hinserts.unique hv ▸ hsame.symm)) not_false

theorem records_cancelOrder (s : Setup) (w : World) (consignmentId asked : String)
    (userId : Int) :
    s.Records w consignmentId (.cancelOrder asked userId)
      ((s.step w (.cancelOrder asked userId)).cache.recorded consignmentId) := by
  have hsame (hevicts : ¬ w.Evicts consignmentId (.cancelOrder asked userId)) :
      s.Records w consignmentId (.cancelOrder asked userId) (w.cache.recorded consignmentId) :=
    .same (fun _ h => h.elim) hevicts
  rw [Setup.step]
  obtain ⟨hdown, hafter⟩ | ⟨hup, hafter⟩ := after_cancelOrder_cases asked userId w
  · rw [hafter]
    refine hsame ?_
    rintro ⟨-, hup, -⟩
    simp [hdown] at hup
  · rw [hafter, World.cancelled]
    cases hcache : w.cache.isDown with
    | true =>
      simp only [Cache.Memory.evict, Cache.Memory.change_of_isDown hcache]
      refine hsame ?_
      rintro ⟨-, -, hreach⟩
      simp [hcache] at hreach
    | false =>
      rw [Cache.Memory.recorded_evict hcache]
      split
      · rename_i hid
        exact .evicted ⟨hid.symm, hup, hcache⟩
      · rename_i hid
        exact hsame fun h => hid h.1.symm

theorem records_step (s : Setup) (w : World) (consignmentId : String) (e : Event) :
    s.Records w consignmentId e ((s.step w e).cache.recorded consignmentId) := by
  have idle {v : World} (hinserts : ∀ o, ¬ s.Inserts w o e) (hevicts : ¬ w.Evicts consignmentId e)
      (h : v.cache.recorded consignmentId = w.cache.recorded consignmentId) :
      s.Records w consignmentId e (v.cache.recorded consignmentId) := by
    rw [h]
    exact .same (fun o ho => absurd ho (hinserts o)) hevicts
  cases e with
  | createOrder d userId => exact records_createOrder s w consignmentId d userId
  | cancelOrder asked userId => exact records_cancelOrder s w consignmentId asked userId
  | login single f => exact idle (fun _ => not_false) not_false (recorded_after_login _ w _ f)
  | logout userId => exact idle (fun _ => not_false) not_false (recorded_after_logout userId w _)
  | authenticate token =>
    exact idle (fun _ => not_false) not_false (recorded_after_authenticate _ w _ token)
  | listOrders userId r =>
    exact idle (fun _ => not_false) not_false (by rw [Setup.step, after_listOrders])
  | _ => exact .same (fun _ => False.elim) not_false

theorem Setup.Inserts.isFree {s : Setup} {w : World} {o : Order} {e : Event}
    (h : s.Inserts w o e) : w.orders.isTaken o.consignmentId = false := by
  cases e with
  | createOrder d userId =>
    obtain ⟨hnone, -⟩ | ⟨v, hinserts, hfree, -⟩ := inserts_createOrder s w d userId
    · exact absurd h (hnone o)
    · exact h.unique hinserts ▸ hfree
  | _ => exact h.elim

theorem Setup.Inserts.isTaken {s : Setup} {w : World} {o : Order} {e : Event}
    (h : s.Inserts w o e) : (s.step w e).orders.isTaken o.consignmentId = true := by
  cases e with
  | createOrder d userId =>
    refine List.any_eq_true.mpr ⟨o, ?_, by simp⟩
    rw [Setup.step, h.2]
    exact List.mem_append_right _ List.mem_cons_self
  | _ => exact h.elim

/-- Whatever happens, the rows of the order store stay and at most age. -/
theorem orders_age_step (s : Setup) (w : World) (e : Event) :
    w.orders.Ages (s.step w e).orders := by
  cases e with
  | createOrder d userId =>
    have htakes := takes_createOrder s.orders d userId w
    rw [Setup.step, World.after]
    generalize w.perform (createOrder s.orders d userId) = r at htakes
    cases htakes with
    | refused e suffixes collisions => exact RowsAge.of_eq rfl
    | @taken draw suffixes collisions o hdrawn hvalid hup hfree => exact w.orders.ages_added o
  | cancelOrder consignmentId userId =>
    rw [Setup.step]
    obtain ⟨-, hafter⟩ | ⟨-, hafter⟩ := after_cancelOrder_cases consignmentId userId w
    · rw [hafter]
      exact RowsAge.of_eq rfl
    · rw [hafter]
      exact w.orders.ages_map_deletedFor w.clock consignmentId userId
  | login single f =>
    exact RowsAge.of_eq (congrArg _ (orders_after_login _ w f))
  | logout userId => exact RowsAge.of_eq (congrArg _ (orders_after_logout userId w))
  | authenticate token =>
    exact RowsAge.of_eq (congrArg _ (orders_after_authenticate _ w token))
  | listOrders userId r =>
    rw [Setup.step, after_listOrders]
    exact RowsAge.of_eq rfl
  | _ => exact RowsAge.of_eq rfl

/-- The cache keeps these orders as they were inserted, and nothing of any other. Their ids are
taken in the store, so none of them is ever overwritten by another order. -/
structure World.MirrorsExactly (w : World) (mirrored : Order → Prop) : Prop where
  taken : ∀ o, mirrored o → w.orders.isTaken o.consignmentId = true
  shown : ∀ o, mirrored o → w.cache.recorded o.consignmentId =
    (some (Cache.orderFields o), [(o.createdAt.seconds, o.consignmentId)])
  absent : ∀ consignmentId, (∀ o, mirrored o → o.consignmentId ≠ consignmentId) →
    w.cache.recorded consignmentId = (none, [])

namespace World.MirrorsExactly

variable {w : World} {mirrored : Order → Prop}

theorem shown_step (h : w.MirrorsExactly mirrored) (s : Setup) {e : Event} {o : Order}
    (ho : mirrored o ∧ ¬ w.Evicts o.consignmentId e ∨
      s.Inserts w o e ∧ w.cache.isDown = false) :
    (s.step w e).cache.recorded o.consignmentId =
      (some (Cache.orderFields o), [(o.createdAt.seconds, o.consignmentId)]) := by
  have hrecords := records_step s w o.consignmentId e
  generalize (s.step w e).cache.recorded o.consignmentId = kept at hrecords
  cases hrecords with
  | @shown v hinserts hup hid =>
    rcases ho with ⟨hold, -⟩ | ⟨hnew, -⟩
    · have htaken := h.taken o hold
      rw [← hid, hinserts.isFree] at htaken
      cases htaken
    · rw [hinserts.unique hnew]
  | evicted hevicts =>
    rcases ho with ⟨-, hstays⟩ | ⟨hnew, -⟩
    · exact absurd hevicts hstays
    · cases e with
      | cancelOrder asked userId => exact hnew.elim
      | _ => exact hevicts.elim
  | same hinserts hevicts =>
    rcases ho with ⟨hold, -⟩ | ⟨hnew, hup⟩
    · exact h.shown o hold
    · exact absurd rfl (hinserts o hnew hup)

theorem absent_step (h : w.MirrorsExactly mirrored) (s : Setup) {e : Event}
    {consignmentId : String}
    (hnone : ∀ o, (mirrored o ∧ ¬ w.Evicts o.consignmentId e ∨
      s.Inserts w o e ∧ w.cache.isDown = false) → o.consignmentId ≠ consignmentId) :
    (s.step w e).cache.recorded consignmentId = (none, []) := by
  have hrecords := records_step s w consignmentId e
  generalize (s.step w e).cache.recorded consignmentId = kept at hrecords
  cases hrecords with
  | @shown v hinserts hup hid => exact absurd hid (hnone v (.inr ⟨hinserts, hup⟩))
  | evicted hevicts => rfl
  | same hinserts hevicts =>
    refine h.absent consignmentId fun o ho hid => ?_
    exact hnone o (.inl ⟨ho, hid ▸ hevicts⟩) hid

/-- One event takes what it evicts from the mirrored orders and adds what it inserts. -/
theorem step (h : w.MirrorsExactly mirrored) (s : Setup) (e : Event) :
    (s.step w e).MirrorsExactly fun o => mirrored o ∧ ¬ w.Evicts o.consignmentId e ∨
      s.Inserts w o e ∧ w.cache.isDown = false where
  taken o ho := by
    rcases ho with ⟨hold, -⟩ | ⟨hnew, -⟩
    · exact (orders_age_step s w e).isTaken (h.taken o hold)
    · exact hnew.isTaken
  shown _ ho := h.shown_step s ho
  absent _ hnone := h.absent_step s hnone

theorem run {s : Setup} {w : World} (hmirrors : w.cache.mirrors = [])
    (hindex : w.cache.index = []) (es : List Event) :
    (s.run w es).MirrorsExactly (s.LeavesMirrored w es) := by
  induction es using List.reverseRecOn with
  | nil =>
    have hnever (o : Order) : ¬ s.LeavesMirrored w [] o := by
      rintro ⟨before, e, after, hsplit, -⟩
      simp at hsplit
    refine ⟨fun o ho => absurd ho (hnever o), fun o ho => absurd ho (hnever o), fun _ _ => ?_⟩
    rw [Setup.run_nil, Cache.Memory.recorded, hmirrors, hindex]
    rfl
  | append_singleton es e ih =>
    have hstep := ih.step s e
    simp only [← Setup.leavesMirrored_concat, ← Setup.run_concat] at hstep
    exact hstep

/-- What is recorded of an order tells whether it is mirrored. -/
theorem recorded_cases (h : w.MirrorsExactly mirrored) (consignmentId : String) :
    (∃ o, (mirrored o ∧ o.consignmentId = consignmentId) ∧ w.cache.recorded consignmentId =
      (some (Cache.orderFields o), [(o.createdAt.seconds, consignmentId)])) ∨
    (¬ ∃ o, mirrored o ∧ o.consignmentId = consignmentId) ∧
      w.cache.recorded consignmentId = (none, []) := by
  by_cases hex : ∃ o, mirrored o ∧ o.consignmentId = consignmentId
  · obtain ⟨o, ho, rfl⟩ := hex
    exact .inl ⟨o, ⟨ho, rfl⟩, h.shown o ho⟩
  · exact .inr ⟨hex, h.absent consignmentId fun o ho hid => hex ⟨o, ho, hid⟩⟩

theorem isSome_lookup_iff (h : w.MirrorsExactly mirrored) (consignmentId : String) :
    (w.cache.mirrors.lookup (Cache.orderKey consignmentId)).isSome = true ↔
      ∃ o, mirrored o ∧ o.consignmentId = consignmentId := by
  obtain ⟨o, hmirrored, hrecorded⟩ | ⟨hnone, hrecorded⟩ := h.recorded_cases consignmentId
  · have hlookup := congrArg Prod.fst hrecorded
    simp only [Cache.Memory.recorded] at hlookup
    rw [hlookup]
    exact iff_of_true rfl ⟨o, hmirrored⟩
  · have hlookup := congrArg Prod.fst hrecorded
    simp only [Cache.Memory.recorded] at hlookup
    rw [hlookup]
    exact iff_of_false (by simp) hnone

theorem mem_index_iff (h : w.MirrorsExactly mirrored) (consignmentId : String) :
    consignmentId ∈ w.cache.index.map Prod.snd ↔
      ∃ o, mirrored o ∧ o.consignmentId = consignmentId := by
  have hmem : consignmentId ∈ w.cache.index.map Prod.snd ↔
      (w.cache.recorded consignmentId).2 ≠ [] := by
    simp [Cache.Memory.recorded]
  rw [hmem]
  obtain ⟨o, hmirrored, hrecorded⟩ | ⟨hnone, hrecorded⟩ := h.recorded_cases consignmentId
  · rw [hrecorded]
    exact iff_of_true (List.cons_ne_nil _ _) ⟨o, hmirrored⟩
  · rw [hrecorded]
    exact iff_of_false (fun h => h rfl) hnone

theorem nodup_index (h : w.MirrorsExactly mirrored) : (w.cache.index.map Prod.snd).Nodup := by
  refine List.nodup_iff_count_le_one.mpr fun consignmentId => ?_
  have hcount : (w.cache.index.map Prod.snd).count consignmentId =
      (w.cache.recorded consignmentId).2.length := by
    rw [List.count, List.countP_map, List.countP_eq_length_filter, Cache.Memory.recorded]
    rfl
  rw [hcount]
  obtain ⟨o, -, hrecorded⟩ | ⟨-, hrecorded⟩ := h.recorded_cases consignmentId <;>
    simp [hrecorded]

end World.MirrorsExactly

/-- From a cache without orders on, whatever happens at the desk and goes out of reach: the hash and
the index both hold the orders that were taken in with the cache in reach and for whose cancellation
nobody has asked since with store and cache in reach. The index has each of them once, under its
time of creation, and the hash has its fields as it was inserted. -/
theorem mirrors_follow_orders (s : Setup) {w : World} (hmirrors : w.cache.mirrors = [])
    (hindex : w.cache.index = []) (es : List Event) :
    (∀ consignmentId,
      ((s.run w es).cache.mirrors.lookup (Cache.orderKey consignmentId)).isSome = true ↔
        ∃ o, s.LeavesMirrored w es o ∧ o.consignmentId = consignmentId) ∧
    (∀ consignmentId, consignmentId ∈ (s.run w es).cache.index.map Prod.snd ↔
      ∃ o, s.LeavesMirrored w es o ∧ o.consignmentId = consignmentId) ∧
    ((s.run w es).cache.index.map Prod.snd).Nodup ∧
    ∀ o, s.LeavesMirrored w es o →
      (s.run w es).cache.mirrors.lookup (Cache.orderKey o.consignmentId) =
        some (Cache.orderFields o) ∧
      (o.createdAt.seconds, o.consignmentId) ∈ (s.run w es).cache.index := by
  have hexact : (s.run w es).MirrorsExactly (s.LeavesMirrored w es) := .run hmirrors hindex es
  refine ⟨hexact.isSome_lookup_iff, hexact.mem_index_iff, hexact.nodup_index, fun o ho => ?_⟩
  obtain ⟨hlookup, hentry⟩ := Prod.ext_iff.mp (hexact.shown o ho)
  refine ⟨hlookup, ?_⟩
  have hmem : (o.createdAt.seconds, o.consignmentId) ∈
      ((s.run w es).cache.recorded o.consignmentId).2 := hentry ▸ List.mem_cons_self
  exact (List.mem_filter.mp hmem).1

def letterDay : List Event :=
  [.createOrder letter 7, .cacheDown true, .createOrder gift 7, .cancelOrder "CN251009A" 7,
    .cacheDown false, .createOrder gift 7, .cancelOrder "CN251009C" 8]

def letterRow : Order := { Order.ofDraft letter 1 7 "CN251009A" emptyDesk.clock with id := 1 }

/-- In the end the cache still has the letter and neither of the gifts. -/
theorem cancelled_letter_stays_mirrored :
    emptyDesk.cache.mirrors = [] ∧ emptyDesk.cache.index = [] ∧
    ({} : Setup).LeavesMirrored emptyDesk letterDay letterRow ∧
    (({} : Setup).run emptyDesk letterDay).cache.mirrors.lookup (Cache.orderKey "CN251009A") =
      some (Cache.orderFields letterRow) ∧
    (1760000000, "CN251009A") ∈ (({} : Setup).run emptyDesk letterDay).cache.index ∧
    ∀ o, ({} : Setup).LeavesMirrored emptyDesk letterDay o → o.consignmentId = "CN251009A" := by
  obtain ⟨-, hindex, -, hfields⟩ :=
    mirrors_follow_orders {} (w := emptyDesk) rfl rfl letterDay
  have hids : (({} : Setup).run emptyDesk letterDay).cache.index.map Prod.snd = ["CN251009A"] := rfl
  have honly : ∀ o, ({} : Setup).LeavesMirrored emptyDesk letterDay o →
      o.consignmentId = "CN251009A" := by
    intro o ho
    have hmem := (hindex o.consignmentId).mpr ⟨o, ho, rfl⟩
    rw [hids] at hmem
    exact List.mem_singleton.mp hmem
  have hmirrored : ({} : Setup).LeavesMirrored emptyDesk letterDay letterRow := by
    refine ⟨[], _, _, rfl, ⟨rfl, rfl⟩, rfl, ?_⟩
    simp only [Setup.throughout_cons]
    refine ⟨not_false, not_false, ?_, not_false, not_false, ?_, Setup.throughout_nil _ _⟩
    · exact fun ⟨_, _, hup⟩ => by cases hup
    · exact fun ⟨hid, _⟩ => absurd hid (by decide)
  obtain ⟨hlookup, hentry⟩ := hfields letterRow hmirrored
  exact ⟨rfl, rfl, hmirrored, hlookup, hentry, honly⟩

end Desk

end ParcelDesk
