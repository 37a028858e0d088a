import Mathlib.Data.List.Forall2
import ParcelDesk.Database.Pool
import ParcelDesk.Proofs.Attempts

/-!
Conversations with a server that follows a script. On an open pool every statement is sent and gets
the next reply; what a command or a query makes of a reply does not depend on what was sent.
-/

namespace ParcelDesk.Database

namespace Reply

def counts : Reply → Nat × Nat
  | done affected lastId => (affected, lastId)
  | rows _ _ => (0, 0)

def rowList : Reply → List Row
  | done _ _ => []
  | rows columns cells => cells.map (Row.mk columns)

end Reply

namespace Pool

/-- What the server answers to the statement after so many more. A script that has come to its end
says that all is done. -/
def answer (p : Pool) (n : Nat) : Except ServerError Reply := p.script.getD n (.ok (.done 0 0))

def Acknowledges (p : Pool) (n : Nat) : Prop :=
  p.isOpen = true ∧ ∀ m < n, ∃ reply, p.answer m = .ok reply

theorem Acknowledges.succ {p : Pool} {n : Nat} {reply : Reply} (h : p.Acknowledges n)
    (hreply : p.answer n = .ok reply) : p.Acknowledges (n + 1) := by
  refine ⟨h.1, fun m hm => ?_⟩
  rcases Nat.lt_or_eq_of_le (Nat.le_of_lt_succ hm) with hlt | rfl
  · exact h.2 m hlt
  · exact ⟨reply, hreply⟩

def rowsAt (p : Pool) (n : Nat) : List Row :=
  match p.answer n with
  | .ok reply => reply.rowList
  | .error _ => []

theorem rowsAt_of_answer {p : Pool} {n : Nat} {reply : Reply} (h : p.answer n = .ok reply) :
    p.rowsAt n = reply.rowList := by
  rw [rowsAt, h]

def after (p : Pool) (s : Statement) : Pool :=
  { p with script := p.script.tail, sent := p.sent ++ [s] }

@[simp]
theorem isOpen_after (p : Pool) (s : Statement) : (p.after s).isOpen = p.isOpen := rfl

@[simp]
theorem sent_after (p : Pool) (s : Statement) : (p.after s).sent = p.sent ++ [s] := rfl

@[simp]
theorem answer_after (p : Pool) (s : Statement) (n : Nat) :
    (p.after s).answer n = p.answer (n + 1) := by
  simp [answer, after]

theorem reply_log (p : Pool) (s : Statement) :
    (p.log s).reply = ((p.answer 0).mapError .refused, p.after s) := by
  cases hscript : p.script <;> simp [reply, log, answer, after, hscript, Except.mapError]

end Pool

namespace Talk

variable {p : Pool}

theorem run_send (hopen : p.isOpen = true) (s : Statement) :
    (send s).run Pool.serve p = ((p.answer 0).mapError .refused, p.after s) := by
  rw [send, Attempt.run_of, Pool.serve, if_pos hopen, Pool.reply_log]

theorem run_execute (hopen : p.isOpen = true) (s : Statement) :
    (execute s).run Pool.serve p =
      (((p.answer 0).mapError .refused).map Reply.counts, p.after s) := by
  rw [execute, Attempt.run_bind, run_send hopen]
  cases p.answer 0 with
  | ok reply => cases reply <;> rfl
  | error e => rfl

theorem run_fetchAll (hopen : p.isOpen = true) (s : Statement) :
    (fetchAll s).run Pool.serve p =
      (((p.answer 0).mapError .refused).map Reply.rowList, p.after s) := by
  rw [fetchAll, Attempt.run_bind, run_send hopen]
  cases p.answer 0 with
  | ok reply => cases reply <;> rfl
  | error e => rfl

theorem run_fetchOne (hopen : p.isOpen = true) {s : Statement} {reply : Reply} {row : Row}
    (hreply : p.answer 0 = .ok reply) (hrow : reply.rowList.head? = some row) :
    (fetchOne s).run Pool.serve p = (.ok row, p.after s) := by
  rw [fetchOne, fetchOptional, Attempt.run_bind, Attempt.run_bind, run_fetchAll hopen, hreply]
  simp only [Except.mapError, Except.map, Attempt.run_pure, hrow]

theorem isOpen_run {α : Type} (t : Task Call α) (p : Pool) :
    (t.run Pool.serve p).2.isOpen = p.isOpen := by
  induction t generalizing p with
  | done a => rfl
  | call c next ih =>
    rw [Task.run, ih]
    cases c with
    | acquire => rfl
    | rollback => rfl
    | send s =>
      rw [Pool.serve]
      split
      · rw [Pool.reply_log, Pool.isOpen_after]
      · rfl

/-- What a transaction does once it has begun. -/
theorem run_undone {ε α : Type} (work : Talk ε α) (p : Pool) :
    Attempt.run Pool.serve
        (ExceptT.mk do
          match ← ExceptT.run work with
          | .ok a => pure (.ok a)
          | .error e =>
            Task.of .rollback
            pure (.error e)) p =
      match work.run Pool.serve p with
      | (.ok a, q) => (.ok a, q)
      | (.error e, q) => (.error e, q.log ⟨"ROLLBACK", []⟩) := by
  rw [Attempt.run, ExceptT.run_mk, Task.run_bind, ← Attempt.run]
  rcases work.run Pool.serve p with ⟨r, q⟩
  cases r <;> rfl

/-- A transaction that has begun is committed or undone. -/
theorem run_transaction {ε α : Type} (hopen : p.isOpen = true) (start finish : Fault → ε)
    (body : Talk ε α) :
    (transaction start finish body).run Pool.serve p =
      match p.answer 0 with
      | .error e => (.error (start (.refused e)), p.after ⟨"BEGIN", []⟩)
      | .ok _ =>
        match body.run Pool.serve (p.after ⟨"BEGIN", []⟩) with
        | (.error f, q) => (.error f, q.log ⟨"ROLLBACK", []⟩)
        | (.ok a, q) =>
          match q.answer 0 with
          | .ok _ => (.ok a, q.after ⟨"COMMIT", []⟩)
          | .error e =>
            (.error (finish (.refused e)), (q.after ⟨"COMMIT", []⟩).log ⟨"ROLLBACK", []⟩) := by
  let work : Talk ε α := do
    let a ← body
    let _ ← Attempt.mapError finish (send ⟨"COMMIT", []⟩)
    pure a
  rw [transaction, Attempt.run_bind, Attempt.run_mapError, run_send hopen]
  cases p.answer 0 with
  | error e => rfl
  | ok reply =>
    refine (run_undone work (p.after ⟨"BEGIN", []⟩)).trans ?_
    have hstill : (body.run Pool.serve (p.after ⟨"BEGIN", []⟩)).2.isOpen = true :=
      (isOpen_run _ _).trans hopen
    simp only [work, Attempt.run_bind, Attempt.run_mapError, Attempt.run_pure]
    rcases hbody : body.run Pool.serve (p.after ⟨"BEGIN", []⟩) with ⟨r, q⟩
    rw [hbody] at hstill
    cases r with
    | error f => rfl
    | ok a =>
      simp only [run_send hstill]
      cases q.answer 0 <;> rfl

end Talk

section Lists

variable {ε α β : Type} {f : α → Except ε β}

theorem error_or_ok (r : Except ε α) : (∃ e, r = .error e) ∨ ∃ a, r = .ok a := by
  cases r <;> simp

theorem mapM_eq_ok_iff {xs : List α} {ys : List β} :
    xs.mapM f = .ok ys ↔ List.Forall₂ (fun x y => f x = .ok y) xs ys := by
  induction xs generalizing ys with
  | nil => cases ys <;> simp [pure, Except.pure]
  | cons x xs ih =>
    rw [List.mapM_cons]
    cases hx : f x with
    | error e => cases ys <;> simp [bind, Except.bind, hx]
    | ok y =>
      cases hxs : xs.mapM f with
      | error e => cases ys <;> simp [bind, Except.bind, ← ih, hx, hxs]
      | ok rest => cases ys <;> simp [bind, Except.bind, pure, Except.pure, ← ih, hx, hxs]

/-- The first item that fails decides. -/
theorem mapM_eq_error_iff {xs : List α} {e : ε} :
    xs.mapM f = .error e ↔ ∃ before x after, xs = before ++ x :: after ∧
      (∀ b ∈ before, ∃ y, f b = .ok y) ∧ f x = .error e := by
  constructor
  · intro h
    induction xs with
    | nil => cases h
    | cons x xs ih =>
      rw [List.mapM_cons] at h
      cases hx : f x with
      | error d =>
        rw [hx] at h
        cases h
        exact ⟨[], x, xs, rfl, by simp, hx⟩
      | ok y =>
        cases hxs : xs.mapM f with
        | ok ys => simp [bind, Except.bind, pure, Except.pure, hx, hxs] at h
        | error d =>
          obtain ⟨before, z, after, rfl, hbefore, hz⟩ := ih (by
            rw [hx, hxs] at h
            cases h
            exact hxs)
          refine ⟨x :: before, z, after, rfl, fun b hb => ?_, hz⟩
          rcases List.mem_cons.mp hb with rfl | hb
          · exact ⟨y, hx⟩
          · exact hbefore b hb
  · rintro ⟨before, x, after, rfl, hbefore, hx⟩
    induction before with
    | nil => simp [List.mapM_cons, hx, bind, Except.bind]
    | cons b before ih =>
      obtain ⟨y, hy⟩ := hbefore b List.mem_cons_self
      have hrest := ih fun c hc => hbefore c (List.mem_cons_of_mem b hc)
      simp only [List.cons_append, List.mapM_cons, hy, hrest, bind, Except.bind]

end Lists

end ParcelDesk.Database
