import ParcelDesk.Proofs.OrderCalls
import ParcelDesk.Proofs.TokenSteps

/-!
Whose rows are touched. What the desk does for a user adds and changes rows of that user only, among
the orders as well as among the tokens, and it changes no account. So the rows of everybody else
are found unchanged, in the same order, and so are their listings.
-/

namespace ParcelDesk

/-- At every place the rows are the same, or they are the user's: the one that stands there now, and
the one that stood there before, if there was one. -/
def TouchedBy {α : Type} (owner : α → Int) (userId : Int) (before after : List α) : Prop :=
  ∀ i : Nat, after[i]? = before[i]? ∨
    (∃ row, after[i]? = some row ∧ owner row = userId) ∧
      ∀ row, before[i]? = some row → owner row = userId

namespace TouchedBy

variable {α : Type} {owner : α → Int} {userId : Int}

theorem refl (rows : List α) : TouchedBy owner userId rows rows := fun _ => .inl rfl

theorem trans {xs ys zs : List α} (hxy : TouchedBy owner userId xs ys)
    (hyz : TouchedBy owner userId ys zs) : TouchedBy owner userId xs zs := by
  intro i
  rcases hxy i with hsame | ⟨⟨y, hy, howned⟩, hbefore⟩
  · rw [← hsame]
    exact hyz i
  · rcases hyz i with hsame | ⟨hafter, -⟩
    · exact .inr ⟨⟨y, hsame.trans hy, howned⟩, hbefore⟩
    · exact .inr ⟨hafter, hbefore⟩

/-- Rows of the user are changed where they stand. -/
theorem map {f : α → α} (hkept : ∀ x, owner (f x) = owner x)
    (hothers : ∀ x, owner x ≠ userId → f x = x) (rows : List α) :
    TouchedBy owner userId rows (rows.map f) := by
  intro i
  rw [List.getElem?_map]
  cases hrow : rows[i]? with
  | none => exact .inl rfl
  | some x =>
    by_cases hx : owner x = userId
    · refine .inr ⟨⟨f x, rfl, (hkept x).trans hx⟩, ?_⟩
      rintro _ ⟨⟩
      exact hx
    · exact .inl (by rw [Option.map_some, hothers x hx])

/-- Rows of the user are added at the end. -/
theorem append (rows : List α) {more : List α} (hmore : ∀ x ∈ more, owner x = userId) :
    TouchedBy owner userId rows (rows ++ more) := by
  intro i
  by_cases hi : i < rows.length
  · exact .inl (List.getElem?_append_left hi)
  · have hnone : rows[i]? = none := List.getElem?_eq_none (Nat.le_of_not_lt hi)
    rw [List.getElem?_append_right (Nat.le_of_not_lt hi), hnone]
    cases hrow : more[i - rows.length]? with
    | none => exact .inl rfl
    | some x =>
      refine .inr ⟨⟨x, rfl, hmore x (List.mem_of_getElem? hrow)⟩, ?_⟩
      rintro _ ⟨⟩

theorem tail {x y : α} {xs ys : List α} (h : TouchedBy owner userId (x :: xs) (y :: ys)) :
    TouchedBy owner userId xs ys := fun i => h (i + 1)

/-- Somebody else's rows are the same as before. -/
theorem filter_eq {other : Int} (hother : other ≠ userId) {before after : List α}
    (h : TouchedBy owner userId before after) :
    after.filter (fun x => owner x == other) = before.filter fun x => owner x == other := by
  have hnot {x : α} (hx : owner x = userId) : (owner x == other) = false := by
    rw [hx]
    exact beq_false_of_ne hother.symm
  induction before generalizing after with
  | nil =>
    refine List.filter_eq_nil_iff.mpr fun x hx => ?_
    obtain ⟨i, hi⟩ := List.getElem?_of_mem hx
    rcases h i with hsame | ⟨⟨row, hrow, howned⟩, -⟩
    · rw [hi] at hsame
      simp at hsame
    · obtain rfl := Option.some.inj (hi.symm.trans hrow)
      simp [hnot howned]
  | cons x xs ih =>
    cases after with
    | nil => exact absurd (h 0) (by simp)
    | cons y ys =>
      rw [List.filter_cons, List.filter_cons, ih h.tail]
      rcases h 0 with hsame | ⟨⟨row, hrow, howned⟩, hbefore⟩
      · obtain rfl := Option.some.inj hsame
        rfl
      · obtain rfl := Option.some.inj hrow
        simp only [hnot howned, hnot (hbefore x rfl), Bool.false_eq_true, ↓reduceIte]

end TouchedBy

namespace Desk

open World

structure World.TouchedFor (userId : Int) (w v : World) : Prop where
  orders : TouchedBy Order.userId userId w.orders.rows v.orders.rows
  tokens : TouchedBy StoredToken.userId userId w.tokens.rows v.tokens.rows
  users : v.users = w.users
  reach : v.orders.isDown = w.orders.isDown

namespace World.TouchedFor

variable {userId : Int} {w v u : World}

theorem trans (hwv : w.TouchedFor userId v) (hvu : v.TouchedFor userId u) :
    w.TouchedFor userId u where
  orders := hwv.orders.trans hvu.orders
  tokens := hwv.tokens.trans hvu.tokens
  users := hvu.users.trans hwv.users
  reach := hvu.reach.trans hwv.reach

/-- The rows are as they were. -/
theorem of_rows (horders : v.orders.rows = w.orders.rows) (htokens : v.tokens.rows = w.tokens.rows)
    (husers : v.users = w.users) (hreach : v.orders.isDown = w.orders.isDown) :
    w.TouchedFor userId v where
  orders := horders ▸ .refl _
  tokens := htokens ▸ .refl _
  users := husers
  reach := hreach

end World.TouchedFor

section Calls

variable (w : World) (userId : Int)

theorem touchedFor_signedOut : w.TouchedFor userId (w.signedOut userId) where
  orders := .refl _
  tokens := by
    rw [rows_signedOut]
    refine .map (revokedFor_userId userId w.clock) (fun t hother => ?_) _
    exact if_neg fun hopen => hother hopen.1
  users := rfl
  reach := rfl

theorem touchedFor_signedIn {w : World} (hup : w.tokens.isDown = false) (r : SessionRules) :
    w.TouchedFor userId (w.signedIn r userId) where
  orders := .refl _
  tokens := by
    rw [rows_signedIn hup]
    refine .append _ fun t ht => ?_
    rw [List.mem_cons, List.mem_singleton] at ht
    rcases ht with rfl | rfl <;> rfl
  users := rfl
  reach := rfl

theorem touchedFor_logout : w.TouchedFor userId (w.after (logout userId)) := by
  obtain hsame | ⟨-, hafter⟩ := after_logout w userId
  · rw [hsame]
    exact .of_rows rfl rfl rfl rfl
  · rw [hafter]
    exact touchedFor_signedOut w userId

theorem touchedFor_cleared (r : SessionRules) : w.TouchedFor userId (w.cleared r userId) := by
  unfold World.cleared
  split
  · exact touchedFor_signedOut w userId
  · exact .of_rows rfl rfl rfl rfl

/-- A login is for the account that its form names, if it lets anybody in. -/
theorem touchedFor_login (r : SessionRules) {f : LoginForm}
    (hwho : ∀ u, w.answer (identify f) = .ok u → u.id = userId) :
    w.TouchedFor userId (w.after (login r f)) := by
  obtain ⟨n, hdrawn⟩ | ⟨u, hu, hup, hafter⟩ := after_login w r f
  · rw [hdrawn]
    exact .of_rows rfl rfl rfl rfl
  · obtain rfl := hwho u hu
    rw [hafter]
    refine (touchedFor_cleared w u.id r).trans (touchedFor_signedIn u.id ?_ r)
    rw [cleared_tokens_isDown, hup]

theorem touchedFor_authenticate (r : SessionRules) (token : String) :
    w.TouchedFor userId (w.after (authenticate r token)) := by
  obtain hsame | ⟨_, -, hremind⟩ := after_authenticate w r token
  · rw [hsame]
    exact .of_rows rfl rfl rfl rfl
  · rw [hremind]
    exact .of_rows rfl rfl rfl rfl

theorem touchedFor_createOrder (s : OrderSettings) (d : Draft) :
    w.TouchedFor userId (w.after (createOrder s d userId)) := by
  have htakes := takes_createOrder s d userId w
  unfold World.after
  generalize w.perform (createOrder s d userId) = r at htakes
  cases htakes with
  | refused e suffixes collisions => exact .of_rows rfl rfl rfl rfl
  | taken draw suffixes collisions hdrawn hvalid hup hfree =>
    refine ⟨.append _ fun o ho => ?_, .refl _, rfl, rfl⟩
    rw [List.mem_singleton.mp ho, hdrawn]
    rfl

theorem touchedFor_cancelOrder (consignmentId : String) :
    w.TouchedFor userId (w.after (cancelOrder consignmentId userId)) := by
  obtain ⟨-, hafter⟩ | ⟨-, hafter⟩ := after_cancelOrder_cases consignmentId userId w
  · rw [hafter]
    exact .of_rows rfl rfl rfl rfl
  · rw [hafter]
    refine ⟨.map (fun o => ?_) (fun o hother => ?_) _, .refl _, rfl, rfl⟩
    · unfold OrderStore.deletedFor
      split <;> rfl
    · exact if_neg (by simp [Order.isLiveFor, hother])

theorem touchedFor_listOrders (s : OrderSettings) (r : ListingRequest) :
    w.TouchedFor userId (w.after (listOrders s userId r)) := by
  rw [after_listOrders]
  exact .of_rows rfl rfl rfl rfl

end Calls

theorem userId_of_filterOf {s : OrderSettings} {userId : Int} {r : ListingRequest} {f : OrderFilter}
    (h : filterOf s userId r = .ok f) : f.userId = userId := by
  unfold filterOf at h
  cases hstatus : statusOf r with
  | error e =>
    rw [hstatus] at h
    cases h
  | ok status =>
    rw [hstatus] at h
    cases h
    rfl

/-- A listing sees no rows but those of its user. -/
theorem answer_listOrders_own {w v : World} {userId : Int}
    (hrows : v.orders.rows.filter (fun o => o.userId == userId) =
      w.orders.rows.filter fun o => o.userId == userId)
    (hreach : v.orders.isDown = w.orders.isDown) (s : OrderSettings) (r : ListingRequest) :
    v.answer (listOrders s userId r) = w.answer (listOrders s userId r) := by
  unfold World.answer
  rw [perform_listOrders, perform_listOrders]
  cases hfilter : filterOf s userId r with
  | error e => rfl
  | ok f =>
    -- what the filter admits is picked from the rows of the user
    have hown (rows : List Order) :
        rows.filter f.admits = (rows.filter fun o => o.userId == userId).filter f.admits := by
      rw [List.filter_filter]
      refine List.filter_congr fun o _ => ?_
      cases hadmits : f.admits o with
      | false => rfl
      | true =>
        simp only [OrderFilter.admits, Bool.and_eq_true, userId_of_filterOf hfilter] at hadmits
        rw [hadmits.1.1.1]
        rfl
    have hlisting : v.orders.listing f = w.orders.listing f := by
      rw [OrderStore.listing, OrderStore.listing, hown, hrows, ← hown]
    have hfind : v.orders.find f = w.orders.find f := by
      rw [OrderStore.find, OrderStore.find, hlisting, hreach]
    simp only [Except.bind, hfind]

end Desk

end ParcelDesk
