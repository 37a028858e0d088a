import ParcelDesk.Proofs.Retries

/-!
What the cache sends to its server. Each call is one command or two, every one of them sent up to
its last try. The second command of a call goes out only after the first has succeeded, so the call
succeeds exactly if all its commands do. This holds for any line to a server, and a server that
follows a script is one.
-/

namespace ParcelDesk.Cache

section Pairs

variable {α β γ : Type} {p : Patience} {l : Line} {first second : List String}
  {readFirst : Reply → Except Fault α} {readSecond : Reply → Except Fault β}

/-- A call of two commands stops with the first if this fails, and else it goes on with the second
and answers what comes of that one. -/
inductive AsksBoth (p : Patience) (l : Line) (first : List String)
    (readFirst : Reply → Except Fault α) (second : List String)
    (readSecond : Reply → Except Fault β) : Except Fault β × Line → Prop
  | stops {e : Fault} {m : Line} (h : Asks p l first readFirst (.error e, m)) :
      AsksBoth p l first readFirst second readSecond (.error e, m)
  | goesOn {a : α} {m : Line} {r : Except Fault β × Line}
      (h : Asks p l first readFirst (.ok a, m)) (hnext : Asks p m second readSecond r) :
      AsksBoth p l first readFirst second readSecond r

def BothSucceed (p : Patience) (l : Line) (first : List String)
    (readFirst : Reply → Except Fault α) (second : List String)
    (readSecond : Reply → Except Fault β) : Prop :=
  ∃ a m b n, Asks p l first readFirst (.ok a, m) ∧ Asks p m second readSecond (.ok b, n)

theorem AsksBoth.isOk_iff {r : Except Fault β × Line}
    (h : AsksBoth p l first readFirst second readSecond r) :
    (∃ b, r.1 = .ok b) ↔ BothSucceed p l first readFirst second readSecond := by
  cases h with
  | @stops e m hfirst =>
    constructor
    · rintro ⟨b, hb⟩
      cases hb
    · rintro ⟨a, n, b, o, hok, -⟩
      have hsame := hfirst.unique hok
      cases hsame
  | @goesOn a m r hfirst hsecond =>
    constructor
    · rintro ⟨b, hb⟩
      obtain ⟨r, n⟩ := r
      obtain rfl : r = .ok b := hb
      exact ⟨a, m, b, n, hfirst, hsecond⟩
    · rintro ⟨a', m', b, n, hok, hnext⟩
      have hsame := hfirst.unique hok
      cases hsame
      rw [hsecond.unique hnext]
      exact ⟨b, rfl⟩

/-- A call whose first command is read further than it is asked for. -/
theorem asksBoth_bind {a : Talk γ} {f : α → γ} {r : Except Fault α × Line}
    (hrun : a.run Line.serve l = (r.1.map f, r.2)) (hfirst : Asks p l first readFirst r)
    (second : List String) (readSecond : Reply → Except Fault β) :
    AsksBoth p l first readFirst second readSecond
      ((a >>= fun _ => p.ask second readSecond).run Line.serve l) := by
  rw [Attempt.run_bind, hrun]
  obtain ⟨r, m⟩ := r
  cases r with
  | error e => exact .stops hfirst
  | ok a => exact .goesOn hfirst (asks_ask p second readSecond m)

end Pairs

namespace Remote

variable {p : Patience} {l : Line}

theorem run_delete (key : String) :
    (delete p key).run Line.serve l =
      (((p.ask ["DEL", key] Reply.asCount).run Line.serve l).1.map fun count => decide (count > 0),
        ((p.ask ["DEL", key] Reply.asCount).run Line.serve l).2) := by
  rw [delete, Attempt.run_bind]
  rcases (p.ask ["DEL", key] Reply.asCount).run Line.serve l with ⟨r, m⟩
  cases r <;> rfl

def mapping (o : Order) : List String :=
  ["HMSET", "order:" ++ o.consignmentId] ++ (orderFields o).flatMap fun field => [field.1, field.2]

def ranking (o : Order) : List String :=
  ["ZADD", "orders", String.ofList (Decimal.integerDigits o.createdAt.seconds), o.consignmentId]

theorem asksBoth_storeOrder (o : Order) :
    AsksBoth p l (mapping o) Reply.asNothing (ranking o) Reply.asNothing
      ((storeOrder p o).run Line.serve l) := by
  refine asksBoth_bind (f := id) ?_ (asks_ask p (mapping o) Reply.asNothing l) (ranking o)
    Reply.asNothing
  rw [Except.map_id]
  rfl

theorem asksBoth_evictOrder (consignmentId : String) :
    AsksBoth p l ["DEL", "order:" ++ consignmentId] Reply.asCount ["ZREM", "orders", consignmentId]
      Reply.asNothing ((evictOrder p consignmentId).run Line.serve l) :=
  asksBoth_bind (run_delete _) (asks_ask p _ Reply.asCount l) _ _

/-- Only nil is read as no text. -/
theorem asText?_eq_none_iff (reply : Reply) : reply.asText? = .ok none ↔ reply = .none := by
  cases reply <;> simp [Reply.asText?, Reply.asText, Except.map]

theorem get_eq_none_iff (key : String) :
    ((get p key).run Line.serve l).1 = .ok none ↔
      ∃ n, LastTry (max 1 p.tries) l Reply.asText? n ∧ l.replies n = .ok .none := by
  obtain ⟨n, hlast, hrun⟩ := asks_ask p ["GET", key] Reply.asText? l
  have hnone : l.outcome Reply.asText? n = .ok none ↔ l.replies n = .ok .none := by
    rw [Line.outcome]
    cases l.replies n with
    | ok reply => simpa using asText?_eq_none_iff reply
    | error e => simp
  rw [get, hrun, hnone]
  constructor
  · intro h
    exact ⟨n, hlast, h⟩
  · rintro ⟨m, hm, h⟩
    rw [hlast.unique hm]
    exact h

/-- Any count will do, also zero. -/
theorem delete_eq_ok {n : Nat} {i : Int} (hlast : LastTry (max 1 p.tries) l Reply.asCount n)
    (hcount : l.replies n = .ok (.int i)) (key : String) :
    ∃ gone, ((delete p key).run Line.serve l).1 = .ok gone := by
  obtain ⟨m, hm, hrun⟩ := asks_ask p ["DEL", key] Reply.asCount l
  rw [run_delete, hrun, hm.unique hlast, Line.outcome, hcount]
  exact ⟨_, rfl⟩

end Remote

/-- The line answers what the server will, and both have seen the same commands. -/
structure Server.Follows (s : Server) (l : Line) : Prop where
  replies : ∀ n, l.replies n = (s.script.getD n (.ok .okay)).mapError .refused
  sent : s.sent = l.sent

theorem Server.Follows.serve {s : Server} {l : Line} (h : s.Follows l) {β : Type} (c : Call β) :
    (Server.serve c s).1 = (Line.serve c l).1 ∧
      (Server.serve c s).2.Follows (Line.serve c l).2 := by
  cases c with
  | rest ms => exact ⟨rfl, h.replies, h.sent.trans (l.sent_rest ms).symm⟩
  | send command =>
    have hsent : s.sent ++ [command] = (Line.serve (.send command) l).2.sent := by
      rw [Line.sent_send, h.sent]
    rw [Server.serve]
    cases hscript : s.script with
    | nil =>
      have hnext := h.replies
      rw [hscript] at hnext
      exact ⟨(hnext 0).symm, fun n => hnext (n + 1), hsent⟩
    | cons r rest =>
      have hnext := h.replies
      rw [hscript] at hnext
      exact ⟨(hnext 0).symm, fun n => hnext (n + 1), hsent⟩

def Server.line (s : Server) : Line where
  replies n := (s.script.getD n (.ok .okay)).mapError .refused
  log := s.sent.map .sent

theorem Server.follows_line (s : Server) : s.Follows s.line where
  replies _ := rfl
  sent := by
    rw [Line.sent, Server.line, List.filterMap_map]
    exact List.filterMap_some.symm

/-- Whatever is asked of a server that follows a script could as well be asked over the line. -/
theorem Server.Follows.run {s : Server} {l : Line} (h : s.Follows l) {α : Type}
    (t : Task Call α) :
    (t.run Server.serve s).1 = (t.run Line.serve l).1 ∧
      (t.run Server.serve s).2.Follows (t.run Line.serve l).2 := by
  induction t generalizing s l with
  | done a => exact ⟨rfl, h⟩
  | call c next ih =>
    obtain ⟨hanswer, hafter⟩ := h.serve c
    rw [Task.run, Task.run, hanswer]
    exact ih _ hafter

/-- The calls of the cache over any line. A command is sent up to its last try and no further: the
first that succeeds or fails for good, or the last that the budget allows, which is one at least.
What comes of it is answered. An order is stored by writing its map and then ranking it, and evicted
by deleting the map and then the rank; either call goes on only after its first command succeeded,
and succeeds exactly if both do. A text is missing exactly if the answer is nil, and a deletion
succeeds with any count. With a server that follows a script, all this is what is sent and
answered. -/
theorem calls_send_their_commands (p : Patience) (l : Line) :
    (∀ {α : Type} (command : List String) (read : Reply → Except Fault α),
      ∃ n m, LastTry (max 1 p.tries) l read n ∧ (∀ k, LastTry (max 1 p.tries) l read k → k = n) ∧
        (p.ask command read).run Line.serve l = (l.outcome read n, m) ∧
        m.sent = l.sent ++ List.replicate (n + 1) command) ∧
    (∀ o, AsksBoth p l (Remote.mapping o) Reply.asNothing (Remote.ranking o) Reply.asNothing
        ((Remote.storeOrder p o).run Line.serve l) ∧
      ((∃ u, ((Remote.storeOrder p o).run Line.serve l).1 = .ok u) ↔
        BothSucceed p l (Remote.mapping o) Reply.asNothing (Remote.ranking o) Reply.asNothing)) ∧
    (∀ id, AsksBoth p l ["DEL", "order:" ++ id] Reply.asCount ["ZREM", "orders", id]
        Reply.asNothing ((Remote.evictOrder p id).run Line.serve l) ∧
      ((∃ u, ((Remote.evictOrder p id).run Line.serve l).1 = .ok u) ↔
        BothSucceed p l ["DEL", "order:" ++ id] Reply.asCount ["ZREM", "orders", id]
          Reply.asNothing)) ∧
    (∀ key value seconds,
      Asks p l ["SETEX", key, String.ofList (Decimal.naturalDigits seconds), value] Reply.asNothing
        ((Remote.setWithExpiry p key value seconds).run Line.serve l)) ∧
    (∀ key, Asks p l ["GET", key] Reply.asText? ((Remote.get p key).run Line.serve l) ∧
      (((Remote.get p key).run Line.serve l).1 = .ok none ↔
        ∃ n, LastTry (max 1 p.tries) l Reply.asText? n ∧ l.replies n = .ok .none)) ∧
    (∀ key, (∃ r, Asks p l ["DEL", key] Reply.asCount r ∧ (Remote.delete p key).run Line.serve l =
        (r.1.map fun count => decide (count > 0), r.2)) ∧
      ∀ n i, LastTry (max 1 p.tries) l Reply.asCount n → l.replies n = .ok (.int i) →
        ∃ gone, ((Remote.delete p key).run Line.serve l).1 = .ok gone) ∧
    ∀ s : Server, s.Follows l → ∀ {α : Type} (talk : Talk α),
      (talk.run Server.serve s).1 = (talk.run Line.serve l).1 ∧
      (talk.run Server.serve s).2.sent = (talk.run Line.serve l).2.sent := by
  refine ⟨?tried, ?stored, ?evicted, ?kept, ?missing, ?deleted, ?served⟩
  case tried =>
    intro α command read
    obtain ⟨n, hlast, hrun⟩ := asks_ask p command read l
    refine ⟨n, _, hlast, fun k hk => hk.unique hlast, hrun, ?_⟩
    exact l.sent_after command p.rest n
  case stored =>
    intro o
    have hboth := Remote.asksBoth_storeOrder (p := p) (l := l) o
    exact ⟨hboth, hboth.isOk_iff⟩
  case evicted =>
    intro id
    have hboth := Remote.asksBoth_evictOrder (p := p) (l := l) id
    exact ⟨hboth, hboth.isOk_iff⟩
  case kept =>
    intro key value seconds
    exact asks_ask p _ Reply.asNothing l
  case missing =>
    intro key
    exact ⟨asks_ask p _ Reply.asText? l, Remote.get_eq_none_iff key⟩
  case deleted =>
    intro key
    refine ⟨⟨_, asks_ask p _ Reply.asCount l, Remote.run_delete key⟩, ?_⟩
    intro n i hlast hcount
    exact Remote.delete_eq_ok hlast hcount key
  case served =>
    intro s h α talk
    obtain ⟨hanswer, hfollows⟩ := h.run (ExceptT.run talk)
    exact ⟨hanswer, hfollows.sent⟩

def karimsParcel : Order := Order.ofDraft {} 1 7 "CN251009A" ⟨1760000000, 0⟩

def loadingServer : Server := { script := [.error ⟨"LOADING", none⟩, .ok (.int 0)] }

/-- A deletion is tried again while the server is loading, and succeeds with nothing deleted. -/
theorem deletion_outlasts_loading :
    LastTry 3 loadingServer.line Reply.asCount 1 ∧
    (∃ gone, ((Remote.delete {} "k").run Line.serve loadingServer.line).1 = .ok gone) ∧
    ((Remote.delete {} "k").run Server.serve loadingServer).2.sent =
      [["DEL", "k"], ["DEL", "k"]] := by
  have hlast : LastTry 3 loadingServer.line Reply.asCount 1 := by
    refine ⟨by decide, fun i hi => ?_, .inl ⟨0, rfl⟩⟩
    obtain rfl : i = 0 := by omega
    exact ⟨_, rfl, rfl⟩
  obtain ⟨-, -, -, -, -, hdelete, hserver⟩ := calls_send_their_commands {} loadingServer.line
  refine ⟨hlast, (hdelete "k").2 1 0 hlast rfl, ?_⟩
  rw [(hserver loadingServer loadingServer.follows_line (Remote.delete {} "k")).2]
  rfl

/-- The map of an order is not written by the command that sets fields of a map. -/
theorem maps_are_not_written_by_hset :
    ((Remote.storeOrder {} karimsParcel).run Server.serve {}).2.sent =
      [Remote.mapping karimsParcel, Remote.ranking karimsParcel] ∧
    ∀ words,
      "HSET" :: words ∉ ((Remote.storeOrder {} karimsParcel).run Server.serve {}).2.sent := by
  have hsent : ((Remote.storeOrder {} karimsParcel).run Server.serve {}).2.sent =
      [Remote.mapping karimsParcel, Remote.ranking karimsParcel] := rfl
  refine ⟨hsent, fun words h => ?_⟩
  rw [hsent] at h
  simp [Remote.mapping, Remote.ranking] at h

end ParcelDesk.Cache
