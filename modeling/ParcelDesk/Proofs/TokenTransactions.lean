import ParcelDesk.Database.TokenTable
import ParcelDesk.Proofs.Conversations

/-!
Revoking the tokens of a user in a database. The rows are selected and then marked within one
transaction, in four statements. A call that answers rows has had all four acknowledged, and answers
the rows of the selection; a call that fails has not sent what comes after the failure.
-/

namespace ParcelDesk.Database.TokenTable

def tableName : TokenKind → String
  | .access => "access_tokens"
  | .refresh => "refresh_tokens"

def lookup (kind : TokenKind) (userId : Int) : Statement :=
  ⟨"SELECT id, token, user_id, expires_at, created_at, deleted_at FROM " ++ tableName kind ++
    " WHERE user_id = ? AND deleted_at IS NULL FOR UPDATE", [.int userId]⟩

def marking (now : Instant) (kind : TokenKind) (userId : Int) : Statement :=
  ⟨"UPDATE " ++ tableName kind ++ " SET deleted_at = ? WHERE user_id = ? AND deleted_at IS NULL",
    [.time now, .int userId]⟩

def rollback : Statement := ⟨"ROLLBACK", []⟩

def steps (now : Instant) (kind : TokenKind) (userId : Int) : List Statement :=
  [⟨"BEGIN", []⟩, lookup kind userId, marking now kind userId, ⟨"COMMIT", []⟩]

def context : Nat → String
  | 0 => "Failed to begin revocation"
  | 1 => "Failed to load tokens for revocation"
  | 2 => "Failed to revoke tokens"
  | _ => "Failed to commit revocation"

def body (now : Instant) (kind : TokenKind) (userId : Int) : Talk Failure (List StoredToken) := do
  let rows ← Attempt.mapError (persistence (context 1)) (Talk.fetchAll (lookup kind userId))
  let tokens ← Attempt.ofExcept (rows.mapM (ofRow kind))
  let _ ← Attempt.mapError (persistence (context 2)) (Talk.execute (marking now kind userId))
  pure tokens

theorem revokeAll_eq (now : Instant) (kind : TokenKind) (userId : Int) :
    revokeAll now kind userId =
      Talk.transaction (persistence (context 0)) (persistence (context 3))
        (body now kind userId) := by
  have hlookup :
      selection kind "deleted_at IS NULL FOR UPDATE" [.int userId] = lookup kind userId := by
    cases kind <;> rfl
  have hname : (table kind).name = tableName kind := by
    cases kind <;> rfl
  rw [revokeAll, hlookup, hname]
  rfl

variable {now : Instant} {kind : TokenKind} {userId : Int} {p : Pool}

theorem run_body (hopen : p.isOpen = true) :
    (body now kind userId).run Pool.serve p =
      match p.answer 0 with
      | .error e => (.error (persistence (context 1) (.refused e)), p.after (lookup kind userId))
      | .ok reply =>
        match reply.rowList.mapM (ofRow kind) with
        | .error f => (.error f, p.after (lookup kind userId))
        | .ok tokens =>
          match p.answer 1 with
          | .error e =>
            (.error (persistence (context 2) (.refused e)),
              (p.after (lookup kind userId)).after (marking now kind userId))
          | .ok _ =>
            (.ok tokens, (p.after (lookup kind userId)).after (marking now kind userId)) := by
  rw [body, Attempt.run_bind, Attempt.run_mapError, Talk.run_fetchAll hopen]
  cases p.answer 0 with
  | error e => rfl
  | ok reply =>
    simp only [Except.mapError, Except.map, Attempt.run_bind, Attempt.run_ofExcept]
    cases reply.rowList.mapM (ofRow kind) with
    | error f => rfl
    | ok tokens =>
      simp only [Attempt.run_mapError, Talk.run_execute ((Pool.isOpen_after _ _).trans hopen),
        Pool.answer_after]
      cases p.answer 1 <;> rfl

def Selects (kind : TokenKind) (p : Pool) (tokens : List StoredToken) : Prop :=
  List.Forall₂ (fun row t => ofRow kind row = .ok t) (p.rowsAt 1) tokens

theorem Selects.mapM {reply : Reply} {tokens : List StoredToken} (h : Selects kind p tokens)
    (hreply : p.answer 1 = .ok reply) : reply.rowList.mapM (ofRow kind) = .ok tokens := by
  rw [← Pool.rowsAt_of_answer hreply]
  exact mapM_eq_ok_iff.mpr h

/-- Some row of the selection cannot be read, and it is the first such row. -/
def Misreads (kind : TokenKind) (p : Pool) (f : Failure) : Prop :=
  ∃ before row after, p.rowsAt 1 = before ++ row :: after ∧
    (∀ b ∈ before, ∃ t, ofRow kind b = .ok t) ∧ ofRow kind row = .error f

variable {r : Except Failure (List StoredToken)} {q : Pool}

theorem of_closed (hrun : (revokeAll now kind userId).run Pool.serve p = (r, q))
    (h : p.isOpen = false) : r = .error (persistence (context 0) .closed) ∧ q = p := by
  rw [revokeAll_eq, Talk.transaction, Attempt.run_bind, Attempt.run_mapError, Talk.send,
    Attempt.run_of, Pool.serve, if_neg (by simp [h])] at hrun
  obtain ⟨rfl, rfl⟩ := Prod.mk.inj hrun
  exact ⟨rfl, rfl⟩

/-- The first step that is not acknowledged is the last one, and a transaction is undone. -/
theorem of_refused (hrun : (revokeAll now kind userId).run Pool.serve p = (r, q)) {n : Nat}
    {e : ServerError} (hn : n < 4) (h : p.Acknowledges n)
    (hread : 2 ≤ n → ∃ tokens, Selects kind p tokens) (he : p.answer n = .error e) :
    r = .error (persistence (context n) (.refused e)) ∧
      q.sent = p.sent ++ ((steps now kind userId).take (n + 1) ++
        if n = 0 then [] else [rollback]) := by
  rw [revokeAll_eq, Talk.run_transaction h.1, run_body ((Pool.isOpen_after _ _).trans h.1)] at hrun
  match n, hn with
  | 0, _ =>
    simp only [he] at hrun
    obtain ⟨rfl, rfl⟩ := Prod.mk.inj hrun
    exact ⟨rfl, by simp [steps]⟩
  | 1, _ =>
    obtain ⟨_, h₀⟩ := h.2 0 (by omega)
    simp only [h₀, Pool.answer_after, he] at hrun
    obtain ⟨rfl, rfl⟩ := Prod.mk.inj hrun
    exact ⟨rfl, by simp [steps, rollback, Pool.log]⟩
  | 2, _ =>
    obtain ⟨_, h₀⟩ := h.2 0 (by omega)
    obtain ⟨_, h₁⟩ := h.2 1 (by omega)
    obtain ⟨_, htokens⟩ := hread (by omega)
    simp only [h₀, Pool.answer_after, h₁, htokens.mapM h₁, he] at hrun
    obtain ⟨rfl, rfl⟩ := Prod.mk.inj hrun
    exact ⟨rfl, by simp [steps, rollback, Pool.log]⟩
  | 3, _ =>
    obtain ⟨_, h₀⟩ := h.2 0 (by omega)
    obtain ⟨_, h₁⟩ := h.2 1 (by omega)
    obtain ⟨_, h₂⟩ := h.2 2 (by omega)
    obtain ⟨_, htokens⟩ := hread (by omega)
    simp only [h₀, Pool.answer_after, h₁, htokens.mapM h₁, h₂, he] at hrun
    obtain ⟨rfl, rfl⟩ := Prod.mk.inj hrun
    exact ⟨rfl, by simp [steps, rollback, Pool.log]⟩

/-- With a row that cannot be read, nothing is marked. -/
theorem of_misreads (hrun : (revokeAll now kind userId).run Pool.serve p = (r, q)) {f : Failure}
    (h : p.Acknowledges 2) (hrows : Misreads kind p f) :
    r = .error f ∧ q.sent = p.sent ++ ((steps now kind userId).take 2 ++ [rollback]) := by
  obtain ⟨_, h₀⟩ := h.2 0 (by omega)
  obtain ⟨reply, h₁⟩ := h.2 1 (by omega)
  have hread : reply.rowList.mapM (ofRow kind) = .error f := by
    rw [← Pool.rowsAt_of_answer h₁]
    exact mapM_eq_error_iff.mpr hrows
  rw [revokeAll_eq, Talk.run_transaction h.1, run_body ((Pool.isOpen_after _ _).trans h.1)] at hrun
  simp only [h₀, Pool.answer_after, h₁, hread] at hrun
  obtain ⟨rfl, rfl⟩ := Prod.mk.inj hrun
  exact ⟨rfl, by simp [steps, rollback, Pool.log]⟩

theorem of_acknowledged (hrun : (revokeAll now kind userId).run Pool.serve p = (r, q))
    {tokens : List StoredToken} (h : p.Acknowledges 4) (htokens : Selects kind p tokens) :
    r = .ok tokens ∧ q.sent = p.sent ++ steps now kind userId := by
  obtain ⟨_, h₀⟩ := h.2 0 (by omega)
  obtain ⟨_, h₁⟩ := h.2 1 (by omega)
  obtain ⟨_, h₂⟩ := h.2 2 (by omega)
  obtain ⟨_, h₃⟩ := h.2 3 (by omega)
  rw [revokeAll_eq, Talk.run_transaction h.1, run_body ((Pool.isOpen_after _ _).trans h.1)] at hrun
  simp only [h₀, Pool.answer_after, h₁, htokens.mapM h₁, h₂, h₃] at hrun
  obtain ⟨rfl, rfl⟩ := Prod.mk.inj hrun
  exact ⟨rfl, by simp [steps]⟩

/-- A revocation comes to its end, or there is a first thing that stops it. -/
theorem ends_or_stops (kind : TokenKind) (hopen : p.isOpen = true) :
    (∃ n < 4, ∃ e, p.Acknowledges n ∧ (2 ≤ n → ∃ tokens, Selects kind p tokens) ∧
        p.answer n = .error e) ∨
      (∃ f, p.Acknowledges 2 ∧ Misreads kind p f) ∨
      ∃ tokens, p.Acknowledges 4 ∧ Selects kind p tokens := by
  have hnone : p.Acknowledges 0 := ⟨hopen, fun m hm => absurd hm (Nat.not_lt_zero m)⟩
  obtain ⟨e, h₀⟩ | ⟨_, h₀⟩ := error_or_ok (p.answer 0)
  · exact .inl ⟨0, by omega, e, hnone, by omega, h₀⟩
  obtain ⟨e, h₁⟩ | ⟨_, h₁⟩ := error_or_ok (p.answer 1)
  · exact .inl ⟨1, by omega, e, hnone.succ h₀, by omega, h₁⟩
  have htwo : p.Acknowledges 2 := (hnone.succ h₀).succ h₁
  obtain ⟨f, hread⟩ | ⟨tokens, hread⟩ := error_or_ok ((p.rowsAt 1).mapM (ofRow kind))
  · exact .inr (.inl ⟨f, htwo, mapM_eq_error_iff.mp hread⟩)
  have htokens : Selects kind p tokens := mapM_eq_ok_iff.mp hread
  obtain ⟨e, h₂⟩ | ⟨_, h₂⟩ := error_or_ok (p.answer 2)
  · exact .inl ⟨2, by omega, e, htwo, fun _ => ⟨tokens, htokens⟩, h₂⟩
  obtain ⟨e, h₃⟩ | ⟨_, h₃⟩ := error_or_ok (p.answer 3)
  · exact .inl ⟨3, by omega, e, htwo.succ h₂, fun _ => ⟨tokens, htokens⟩, h₃⟩
  · exact .inr (.inr ⟨tokens, (htwo.succ h₂).succ h₃, htokens⟩)

/-- Tokens are answered only at the end of a revocation. -/
theorem acknowledged_of_ok (hrun : (revokeAll now kind userId).run Pool.serve p = (r, q))
    {tokens : List StoredToken} (h : r = .ok tokens) :
    p.Acknowledges 4 ∧ Selects kind p tokens := by
  cases hopen : p.isOpen with
  | false => simp [of_closed hrun hopen] at h
  | true =>
    obtain ⟨n, hn, e, hbefore, hread, he⟩ | ⟨f, htwo, hrows⟩ | ⟨found, hall, hfound⟩ :=
      ends_or_stops kind hopen
    · simp [of_refused hrun hn hbefore hread he] at h
    · simp [of_misreads hrun htwo hrows] at h
    · have hsame : Except.ok found = Except.ok tokens :=
        (of_acknowledged hrun hall hfound).1.symm.trans h
      rw [← Except.ok.inj hsame]
      exact ⟨hall, hfound⟩

/-- A revocation answers tokens if and only if all its statements are acknowledged, and they are
those of the selected rows. The first failure, be it of a statement or of a row, is answered, and
nothing is sent after it but that the transaction is undone. -/
theorem revocations_are_all_or_nothing (now : Instant) (kind : TokenKind) (userId : Int)
    (p : Pool) :
    ∃ r q, (revokeAll now kind userId).run Pool.serve p = (r, q) ∧
      (∀ tokens, r = .ok tokens ↔ p.Acknowledges 4 ∧ Selects kind p tokens) ∧
      (∀ tokens, r = .ok tokens → q.sent = p.sent ++ steps now kind userId) ∧
      (∀ n < 4, ∀ e, p.Acknowledges n → (2 ≤ n → ∃ tokens, Selects kind p tokens) →
        p.answer n = .error e → r = .error (persistence (context n) (.refused e)) ∧
          q.sent = p.sent ++ ((steps now kind userId).take (n + 1) ++
            if n = 0 then [] else [rollback])) ∧
      (∀ f, p.Acknowledges 2 → Misreads kind p f → r = .error f ∧
        q.sent = p.sent ++ ((steps now kind userId).take 2 ++ [rollback])) ∧
      (p.isOpen = false → r = .error (persistence (context 0) .closed) ∧ q = p) := by
  rcases hrun : (revokeAll now kind userId).run Pool.serve p with ⟨r, q⟩
  refine ⟨r, q, rfl, fun tokens => ⟨acknowledged_of_ok hrun, fun h => ?_⟩, fun tokens h => ?_,
    fun n hn e h hread he => of_refused hrun hn h hread he,
    fun f h hrows => of_misreads hrun h hrows, of_closed hrun⟩
  · exact (of_acknowledged hrun h.1 h.2).1
  · obtain ⟨hall, htokens⟩ := acknowledged_of_ok hrun h
    exact (of_acknowledged hrun hall htokens).2

def oneRow (last : Except ServerError Reply) : Pool where
  script :=
    [.ok (.done 0 0),
      .ok (.rows (columns.map fun name => ⟨name, columnType name⟩)
        [[.int 7, .text "t-1", .int 1, .time ⟨2024, 2, 29, 12, 0, 0, 0⟩,
          .time ⟨2024, 2, 29, 11, 0, 0, 0⟩, .null]]),
      .ok (.done 1 0), last]

def karimsToken : StoredToken :=
  ⟨7, .access, "t-1", 1, ⟨1709208000, 0⟩, ⟨1709204400, 0⟩, none⟩

theorem selects_oneRow (last : Except ServerError Reply) :
    Selects .access (oneRow last) [karimsToken] := .cons rfl .nil

theorem acknowledges_oneRow (last : Except ServerError Reply) : (oneRow last).Acknowledges 3 :=
  ⟨rfl, fun
    | 0, _ => ⟨_, rfl⟩
    | 1, _ => ⟨_, rfl⟩
    | 2, _ => ⟨_, rfl⟩⟩

theorem karims_token_is_revoked_if_committed :
    (∃ q, (revokeAll ⟨1709206000, 0⟩ .access 1).run Pool.serve (oneRow (.ok (.done 0 0))) =
        (.ok [karimsToken], q) ∧ q.sent = steps ⟨1709206000, 0⟩ .access 1) ∧
      ∃ q, (revokeAll ⟨1709206000, 0⟩ .access 1).run Pool.serve
          (oneRow (.error ⟨1213, none, "Deadlock found"⟩)) =
        (.error (persistence (context 3) (.refused ⟨1213, none, "Deadlock found"⟩)), q) ∧
          q.sent = steps ⟨1709206000, 0⟩ .access 1 ++ [rollback] := by
  constructor
  · obtain ⟨r, q, hrun, hok, hsent, -⟩ :=
      revocations_are_all_or_nothing ⟨1709206000, 0⟩ .access 1 (oneRow (.ok (.done 0 0)))
    obtain rfl := (hok _).mpr ⟨(acknowledges_oneRow _).succ rfl, selects_oneRow _⟩
    exact ⟨q, hrun, hsent _ rfl⟩
  · obtain ⟨r, q, hrun, -, -, hrefused, -⟩ :=
      revocations_are_all_or_nothing ⟨1709206000, 0⟩ .access 1
        (oneRow (.error ⟨1213, none, "Deadlock found"⟩))
    obtain ⟨rfl, hsent⟩ := hrefused 3 (by omega) _ (acknowledges_oneRow _)
      (fun _ => ⟨_, selects_oneRow _⟩) rfl
    exact ⟨q, hrun, hsent⟩

end ParcelDesk.Database.TokenTable
