import ParcelDesk.Proofs.OrderLedger

/-!
Consignment ids that collide. A draft is taken in under watch: the clock goes on from call to call,
and every attempt to store the order is noted with its answer. The attempts differ in nothing but
the id that each of them draws. They end with the first id that is free, and there are three of them
at most.
-/

namespace ParcelDesk

namespace OrderStore

variable {s : OrderStore} {o : Order}

theorem insert_of_isDown (h : s.isDown = true) (o : Order) : s.insert o = (.error outage, s) :=
  if_pos h

/-- An id that is taken, or counts as taken, uses up one of the collisions that are left. -/
theorem insert_of_collision (hup : s.isDown = false)
    (h : 0 < s.collisions ∨ s.isTaken o.consignmentId = true) :
    s.insert o = (.error (collision o.consignmentId), { s with collisions := s.collisions - 1 }) := by
  unfold insert
  rw [if_neg (by simp [hup])]
  by_cases hleft : 0 < s.collisions
  · rw [if_pos hleft]
  · have htaken : s.isTaken o.consignmentId = true := h.resolve_left hleft
    have hnone : s.collisions - 1 = s.collisions := by omega
    rw [if_neg hleft, if_pos htaken, hnone]

theorem insert_of_free (hup : s.isDown = false) (hnone : s.collisions = 0)
    (hfree : s.isTaken o.consignmentId = false) : s.insert o = (.ok (s.numbered o), s.added o) := by
  unfold insert
  rw [if_neg (by simp [hup]), if_neg (by omega), if_neg (by simp [hfree])]
  rfl

theorem isTaken_iff {id : String} : s.isTaken id = true ↔ ∃ o ∈ s.rows, o.consignmentId = id := by
  simp [isTaken]

end OrderStore

namespace Desk

open World

def Call.attempt? : {β : Type} → Call β → β → Option (Order × Except Failure Order)
  | _, .insertOrder o, answer => some (o, answer)
  | _, _, _ => none

/-- A world under watch, with what the clock shows at each call. -/
structure Watch where
  world : World
  instants : Nat → Instant
  calls : Nat := 0
  attempts : List (Order × Except Failure Order) := []

def Watch.serve {β : Type} (c : Call β) (v : Watch) : β × Watch :=
  let (answer, world) := World.serve c { v.world with clock := v.instants v.calls }
  (answer, { v with
    world
    calls := v.calls + 1
    attempts := (c.attempt? answer).elim v.attempts (v.attempts ++ [·]) })

theorem clock_serve {β : Type} (c : Call β) (w : World) : (World.serve c w).2.clock = w.clock := by
  cases c <;> rfl

theorem Watch.run_task_of_still {α : Type} (t : Task Call α) {v : Watch}
    (hstill : ∀ n, v.instants n = v.world.clock) :
    (t.run Watch.serve v).1 = (t.run World.serve v.world).1 ∧
      (t.run Watch.serve v).2.world = (t.run World.serve v.world).2 := by
  induction t generalizing v with
  | done a => exact ⟨rfl, rfl⟩
  | call c next ih =>
    have hworld : { v.world with clock := v.instants v.calls } = v.world := by
      rw [hstill]
    have hanswer : (Watch.serve c v).1 = (World.serve c v.world).1 := by
      rw [Watch.serve, hworld]
    have hafter : (Watch.serve c v).2.world = (World.serve c v.world).2 := by
      rw [Watch.serve, hworld]
    have hnext : ∀ n, (Watch.serve c v).2.instants n = (Watch.serve c v).2.world.clock := by
      intro n
      rw [hafter, clock_serve]
      exact hstill n
    simp only [Task.run]
    rw [← hanswer, ← hafter]
    exact ih _ hnext

/-- With a clock that stands still, the watch sees what the work makes of the world. -/
theorem Watch.run_of_still {α : Type} (a : Work α) {v : Watch}
    (hstill : ∀ n, v.instants n = v.world.clock) :
    (Attempt.run Watch.serve a v).1 = v.world.answer a ∧
      (Attempt.run Watch.serve a v).2.world = v.world.after a :=
  Watch.run_task_of_still (ExceptT.run a) hstill

structure Intake where
  settings : OrderSettings
  draft : Draft
  userId : Int
  world : World
  instants : Nat → Instant

namespace Intake

variable (t : Intake)

def start : Watch := { world := t.world, instants := t.instants }

def ending : Except Failure Receipt × Watch :=
  Attempt.run Watch.serve (createOrder t.settings t.draft t.userId) t.start

def template : Order :=
  Order.ofDraft t.draft t.settings.homeCity t.userId "" (t.instants 0)

/-- The id that an attempt draws. The first attempt is number 0, and each makes three calls. -/
def candidate (n : Nat) : String :=
  Consignment.idOf t.settings.lead (t.instants (3 * n + 1))
    (t.world.chance.suffix (t.world.chance.suffixes + n))

def proposal (n : Nat) : Order := { t.template with consignmentId := t.candidate n }

def rowUnder (id : String) : Order :=
  { t.template with id := t.world.orders.lastId + 1, consignmentId := id }

/-- A collision is still arranged for the attempt, or some row has its id, be it deleted or not. -/
def Collides (n : Nat) : Prop :=
  n < t.world.orders.collisions ∨ ∃ o ∈ t.world.orders.rows, o.consignmentId = t.candidate n

def failed (n : Nat) : Watch where
  world := { t.world.redrawn (t.world.chance.suffixes + n) (t.world.orders.collisions - n) with
    clock := t.instants (3 * n) }
  instants := t.instants
  calls := 3 * n + 1
  attempts := (List.range n).map fun i =>
    (t.proposal i, .error (OrderStore.collision (t.candidate i)))

def drawn (n : Nat) : Watch where
  world := { t.world.redrawn (t.world.chance.suffixes + (n + 1)) (t.world.orders.collisions - n) with
    clock := t.instants (3 * n + 2) }
  instants := t.instants
  calls := 3 * n + 3
  attempts := (t.failed n).attempts

def stored (n : Nat) : Watch where
  world := { (t.world.redrawn (t.world.chance.suffixes + (n + 1)) 0).withRow (t.proposal n) with
    clock := t.instants (3 * n + 3) }
  instants := t.instants
  calls := 3 * n + 4
  attempts := (t.failed n).attempts ++ [(t.proposal n, .ok (t.rowUnder (t.candidate n)))]

def shut : Watch where
  world := { t.world.redrawn (t.world.chance.suffixes + 1) t.world.orders.collisions with
    clock := t.instants 3 }
  instants := t.instants
  calls := 4
  attempts := [(t.proposal 0, .error OrderStore.outage)]

variable {t}

theorem length_failed (n : Nat) : (t.failed n).attempts.length = n := by
  simp [failed]

theorem length_stored (n : Nat) : (t.stored n).attempts.length = n + 1 := by
  rw [stored, List.length_append, length_failed, List.length_singleton]

theorem run_insertOnce (n : Nat) :
    Attempt.run Watch.serve (insertOnce t.settings.lead t.template) (t.failed n) =
      Watch.serve (.insertOrder (t.proposal n)) (t.drawn n) := rfl

theorem failed_succ (n : Nat) : t.failed (n + 1) =
    { t.drawn n with
      world := { t.world.redrawn (t.world.chance.suffixes + (n + 1))
          (t.world.orders.collisions - (n + 1)) with clock := t.instants (3 * n + 3) }
      calls := 3 * n + 4
      attempts := (t.failed n).attempts ++
        [(t.proposal n, .error (OrderStore.collision (t.candidate n)))] } := by
  simp only [failed, List.range_succ, List.map_append]
  rfl

theorem run_insertOnce_of_collides (hup : t.world.orders.isDown = false) {n : Nat}
    (h : t.Collides n) :
    Attempt.run Watch.serve (insertOnce t.settings.lead t.template) (t.failed n) =
      (.error (OrderStore.collision (t.candidate n)), t.failed (n + 1)) := by
  have hcollision : 0 < (t.drawn n).world.orders.collisions ∨
      (t.drawn n).world.orders.isTaken (t.candidate n) = true := by
    rw [OrderStore.isTaken_iff]
    refine h.imp (fun hleft => ?_) id
    show 0 < t.world.orders.collisions - n
    omega
  have hinsert := OrderStore.insert_of_collision (o := t.proposal n)
    (s := (t.drawn n).world.orders) hup hcollision
  rw [run_insertOnce, Watch.serve, failed_succ]
  simp only [World.serve, hinsert]
  rfl

theorem run_insertOnce_of_free (hup : t.world.orders.isDown = false) {n : Nat}
    (h : ¬ t.Collides n) :
    Attempt.run Watch.serve (insertOnce t.settings.lead t.template) (t.failed n) =
      (.ok (t.rowUnder (t.candidate n)), t.stored n) := by
  obtain ⟨hleft, hfree⟩ := not_or.mp h
  have hnone : t.world.orders.collisions - n = 0 := by omega
  have htaken : (t.drawn n).world.orders.isTaken (t.candidate n) = false := by
    rw [← Bool.not_eq_true, OrderStore.isTaken_iff]
    exact hfree
  have hinsert := OrderStore.insert_of_free (o := t.proposal n)
    (s := (t.drawn n).world.orders) hup hnone htaken
  rw [run_insertOnce, Watch.serve]
  simp only [World.serve, hinsert]
  rw [stored, ← hnone]
  rfl

/-- After so many collisions, an order that may be tried so many times more is stored under the
first free id, or the last id is reported. -/
theorem run_insertFresh (hup : t.world.orders.isDown = false) (n k : Nat)
    (hbefore : ∀ m < k, t.Collides m) :
    (∃ m ≤ k + n, (∀ i < m, t.Collides i) ∧ ¬ t.Collides m ∧
      Attempt.run Watch.serve (insertFresh t.settings.lead t.template n) (t.failed k) =
        (.ok (t.rowUnder (t.candidate m)), t.stored m)) ∨
    ((∀ m < k + n + 1, t.Collides m) ∧
      Attempt.run Watch.serve (insertFresh t.settings.lead t.template n) (t.failed k) =
        (.error (OrderStore.collision (t.candidate (k + n))), t.failed (k + n + 1))) := by
  induction n generalizing k with
  | zero =>
    by_cases hk : t.Collides k
    · have hthrough : ∀ m < k + 1, t.Collides m := Nat.forall_lt_succ_right.mpr ⟨hbefore, hk⟩
      exact .inr ⟨hthrough, run_insertOnce_of_collides hup hk⟩
    · exact .inl ⟨k, Nat.le_refl k, hbefore, hk, run_insertOnce_of_free hup hk⟩
  | succ n ih =>
    by_cases hk : t.Collides k
    · have hthrough : ∀ m < k + 1, t.Collides m := Nat.forall_lt_succ_right.mpr ⟨hbefore, hk⟩
      have hnext := run_insertFresh_conflict (run_insertOnce_of_collides hup hk) n
      rw [hnext, show k + (n + 1) = k + 1 + n by omega]
      exact ih (k + 1) hthrough
    · refine .inl ⟨k, by omega, hbefore, hk, ?_⟩
      exact run_insertFresh_other (run_insertOnce_of_free hup hk) (fun id h => by cases h) n

/-- How a valid draft ends with the store in reach: it is stored under the first free id, or three
attempts have failed. -/
inductive Ends (t : Intake) : Except Failure Receipt × Watch → Prop
  | taken {n : Nat} (hn : n < 3) (hbefore : ∀ m < n, t.Collides m) (hfree : ¬ t.Collides n) :
      t.Ends (.ok (t.rowUnder (t.candidate n)).receipt,
        (Watch.serve (.mirror (t.rowUnder (t.candidate n))) (t.stored n)).2)
  | givenUp (hall : ∀ m < 3, t.Collides m) :
      t.Ends (.error (OrderStore.collision (t.candidate 2)), t.failed 3)

/-- A valid draft comes to its first attempt. -/
theorem ending_eq (hvalid : t.draft.validate = .ok ()) :
    t.ending = Attempt.run Watch.serve (do
      let o ← insertFresh t.settings.lead t.template redraws
      bestEffort (.mirror o)
      pure o.receipt) (t.failed 0) := by
  unfold ending createOrder
  rw [hvalid]
  rfl

theorem ends_ending (hvalid : t.draft.validate = .ok ()) (hup : t.world.orders.isDown = false) :
    t.Ends t.ending := by
  rw [ending_eq hvalid, Attempt.run_bind]
  rcases run_insertFresh hup redraws 0 (fun m hm => absurd hm (Nat.not_lt_zero m)) with
    ⟨n, hn, hbefore, hfree, hrun⟩ | ⟨hall, hrun⟩
  · rw [hrun]
    exact .taken (by simp only [redraws] at hn; omega) hbefore hfree
  · rw [hrun]
    exact .givenUp hall

structure Tries (t : Intake) : Prop where
  atMost : t.ending.2.attempts.length ≤ 3
  each : ∀ n o r, t.ending.2.attempts[n]? = some (o, r) →
    o = t.proposal n ∧ ((∃ e, r = .error e) ↔ t.Collides n)
  collisions : t.ending.2.world.orders.collisions =
    t.world.orders.collisions - t.ending.2.attempts.length

structure TakenAt (t : Intake) (n : Nat) : Prop where
  answer : t.ending.1 = .ok
    { consignmentId := t.candidate n
      merchantOrderId := t.draft.shipment.merchantOrderId
      status := "Pending"
      deliveryFee := (t.rowUnder (t.candidate n)).fees.delivery }
  rows : t.ending.2.world.orders.rows = t.world.orders.rows ++ [t.rowUnder (t.candidate n)]
  attempts : t.ending.2.attempts.length = n + 1

structure GivenUp (t : Intake) : Prop where
  answer : t.ending.1 = .error (.conflict ("consignment id " ++ t.candidate 2))
  rows : t.ending.2.world.orders.rows = t.world.orders.rows
  cache : t.ending.2.world.cache = t.world.cache
  attempts : t.ending.2.attempts.length = 3

structure TurnedAway (t : Intake) : Prop where
  answer : t.ending.1 = .error OrderStore.outage
  orders : t.ending.2.world.orders = t.world.orders
  cache : t.ending.2.world.cache = t.world.cache
  attempts : t.ending.2.attempts = [(t.proposal 0, .error OrderStore.outage)]

/-- The attempts that have failed are those for the ids that collide. -/
theorem of_getElem?_failed {n i : Nat} (hcollide : ∀ m < n, t.Collides m) {o : Order}
    {r : Except Failure Order} (h : (t.failed n).attempts[i]? = some (o, r)) :
    o = t.proposal i ∧ ((∃ e, r = .error e) ↔ t.Collides i) := by
  obtain ⟨hi, hget⟩ := List.getElem?_eq_some_iff.mp h
  rw [length_failed] at hi
  simp only [failed, List.getElem_map, List.getElem_range, Prod.mk.injEq] at hget
  obtain ⟨rfl, rfl⟩ := hget
  exact ⟨rfl, fun _ => hcollide i hi, fun _ => ⟨_, rfl⟩⟩

theorem of_getElem?_stored {n i : Nat} (hcollide : ∀ m < n, t.Collides m) (hfree : ¬ t.Collides n)
    {o : Order} {r : Except Failure Order} (h : (t.stored n).attempts[i]? = some (o, r)) :
    o = t.proposal i ∧ ((∃ e, r = .error e) ↔ t.Collides i) := by
  by_cases hi : i < n
  · rw [stored, List.getElem?_append_left (by rw [length_failed]; exact hi)] at h
    exact of_getElem?_failed hcollide h
  · rw [stored, List.getElem?_append_right (by rw [length_failed]; omega), length_failed] at h
    obtain ⟨hlast, hget⟩ := List.getElem?_eq_some_iff.mp h
    have hsame : i = n := by
      rw [List.length_singleton] at hlast
      omega
    simp only [hsame, Nat.sub_self, List.getElem_cons_zero, Prod.mk.injEq] at hget
    obtain ⟨rfl, rfl⟩ := hget
    rw [hsame]
    refine ⟨rfl, ?_, fun hcollides => absurd hcollides hfree⟩
    rintro ⟨e, ⟨⟩⟩

theorem tries_of_ends (h : t.Ends t.ending) : t.Tries := by
  generalize hend : t.ending = ending at h
  cases h with
  | @taken n hn hbefore hfree =>
    have hlength : t.ending.2.attempts.length = n + 1 := by
      rw [hend]
      exact length_stored n
    refine ⟨by omega, fun i o r hget => ?_, ?_⟩
    · rw [hend] at hget
      exact of_getElem?_stored hbefore hfree hget
    · rw [hlength, hend]
      show 0 = t.world.orders.collisions - (n + 1)
      have hnone := (not_or.mp hfree).1
      omega
  | givenUp hall =>
    have hlength : t.ending.2.attempts.length = 3 := by
      rw [hend]
      exact length_failed 3
    refine ⟨by omega, fun i o r hget => ?_, ?_⟩
    · rw [hend] at hget
      exact of_getElem?_failed hall hget
    · rw [hlength, hend]
      rfl

theorem takenAt_of_ends (h : t.Ends t.ending) {n : Nat} (hn : n < 3)
    (hbefore : ∀ m < n, t.Collides m) (hfree : ¬ t.Collides n) : t.TakenAt n := by
  generalize hend : t.ending = ending at h
  cases h with
  | @taken m hm hmbefore hmfree =>
    have hsame : m = n := by
      rcases Nat.lt_trichotomy m n with hless | heq | hmore
      · exact absurd (hbefore m hless) hmfree
      · exact heq
      · exact absurd (hmbefore n hmore) hfree
    rw [hsame] at hend
    constructor
    · rw [hend]
      rfl
    · rw [hend]
      rfl
    · rw [hend]
      exact length_stored n
  | givenUp hall => exact absurd (hall n hn) hfree

theorem givenUp_of_ends (h : t.Ends t.ending) (hall : ∀ m < 3, t.Collides m) : t.GivenUp := by
  generalize hend : t.ending = ending at h
  cases h with
  | taken hn hbefore hfree => exact absurd (hall _ hn) hfree
  | givenUp _ =>
    constructor
    · rw [hend]
      rfl
    · rw [hend]
      rfl
    · rw [hend]
      rfl
    · rw [hend]
      exact length_failed 3

/-- With the store out of reach there is no second attempt. -/
theorem turnedAway_of_isDown (hvalid : t.draft.validate = .ok ())
    (hdown : t.world.orders.isDown = true) : t.TurnedAway := by
  have hinsert := OrderStore.insert_of_isDown (s := (t.drawn 0).world.orders) hdown (t.proposal 0)
  have honce : Attempt.run Watch.serve (insertOnce t.settings.lead t.template) (t.failed 0) =
      (.error OrderStore.outage, t.shut) := by
    rw [run_insertOnce, Watch.serve]
    simp only [World.serve, hinsert]
    rfl
  -- an outage is no conflict, so the draws that are left are not used
  have hfresh := run_insertFresh_other honce (fun id h => by cases h) 1
  have hend : t.ending = (.error OrderStore.outage, t.shut) := by
    rw [ending_eq hvalid, Attempt.run_bind, redraws, hfresh]
  constructor
  · rw [hend]
  · rw [hend]
    rfl
  · rw [hend]
    rfl
  · rw [hend]
    rfl

/-- How a draft fares at any world, while the clock goes on in any way. A valid one, with the store
in reach, is tried three times at most, and an attempt fails exactly if a collision is still arranged
for it or a row has its id; each attempt uses up one arranged collision. The first attempt that does
not fail stores the order and ends the matter, and the row is the same for each of them but for the
id. If all three fail, the last id is reported and nothing is stored. With the store out of reach
there is one attempt, which changes nothing. A draft that is not valid makes no call at all. With a
clock that stands still, all this is what the work makes of the world. -/
theorem colliding_ids_are_drawn_anew (t : Intake) :
    (t.draft.validate = .ok () → t.world.orders.isDown = false →
      t.Tries ∧
      (∀ n < 3, (∀ m < n, t.Collides m) → ¬ t.Collides n → t.TakenAt n) ∧
      ((∀ n < 3, t.Collides n) → t.GivenUp)) ∧
    (t.draft.validate = .ok () → t.world.orders.isDown = true → t.TurnedAway) ∧
    (∀ e, t.draft.validate = .error e → t.ending = (.error (.invalid e), t.start)) ∧
    ((∀ n, t.instants n = t.world.clock) →
      t.ending.1 = t.world.answer (createOrder t.settings t.draft t.userId) ∧
      t.ending.2.world = t.world.after (createOrder t.settings t.draft t.userId)) := by
  refine ⟨fun hvalid hup => ?_, turnedAway_of_isDown, fun e hinvalid => ?_,
    fun hstill => Watch.run_of_still _ hstill⟩
  · have hends := ends_ending hvalid hup
    exact ⟨tries_of_ends hends, fun n => takenAt_of_ends hends, givenUp_of_ends hends⟩
  · unfold ending createOrder
    rw [hinvalid]
    rfl

def ofGift (orders : OrderStore) : Intake :=
  ⟨{}, gift, 7, { emptyDesk with orders }, fun _ => emptyDesk.clock⟩

def cancelledGift : Order :=
  { Order.ofDraft gift 1 7 "CN251009B" ⟨0, 0⟩ with id := 1, deletedAt := some ⟨0, 0⟩ }

/-- The first id counts as taken, the second belongs to a cancelled order, and the third is free.
With three arranged collisions the third is reported, and without the store the first is not
replaced. -/
theorem third_id_is_taken :
    (ofGift { rows := [cancelledGift], lastId := 1, collisions := 1 }).TakenAt 2 ∧
    (ofGift { rows := [cancelledGift], lastId := 1, collisions := 1 }).candidate 2 =
      "CN251009C" ∧
    (ofGift { collisions := 3 }).GivenUp ∧
    (ofGift { isDown := true }).TurnedAway := by
  have hvalid : gift.validate = .ok () := rfl
  obtain ⟨hfull, -⟩ := colliding_ids_are_drawn_anew
    (ofGift { rows := [cancelledGift], lastId := 1, collisions := 1 })
  obtain ⟨harranged, -⟩ := colliding_ids_are_drawn_anew (ofGift { collisions := 3 })
  obtain ⟨-, hdown, -⟩ := colliding_ids_are_drawn_anew (ofGift { isDown := true })
  refine ⟨(hfull hvalid rfl).2.1 2 (by decide) ?_ ?_, by decide, ?_, hdown hvalid rfl⟩
  · intro m hm
    by_cases hfirst : m = 0
    · exact .inl (by rw [hfirst]; decide)
    · have hsecond : m = 1 := by omega
      rw [hsecond]
      exact .inr ⟨cancelledGift, List.mem_singleton_self _, by decide⟩
  · intro hcollides
    rcases hcollides with hleft | ⟨o, ho, hid⟩
    · exact absurd hleft (by decide)
    · rw [List.mem_singleton.mp ho] at hid
      exact absurd hid (by decide)
  · exact (harranged hvalid rfl).2.2 fun n hn => .inl hn

end Intake

end Desk

end ParcelDesk
