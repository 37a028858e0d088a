/-!
Tasks: computations that call something outside and go on with its answers. What a call does is
decided by whoever serves it, so the same task can be run on a state, against a script of answers,
or one call at a time among other tasks.
-/

namespace ParcelDesk

inductive Task (Call : Type → Type) (α : Type) : Type 1 where
  | done (a : α)
  | call {β : Type} (c : Call β) (next : β → Task Call α)

namespace Task

variable {Call : Type → Type} {α β σ : Type}

def bind : Task Call α → (α → Task Call β) → Task Call β
  | done a, f => f a
  | call c next, f => call c fun b => bind (next b) f

instance : Monad (Task Call) where
  pure := done
  bind := bind

/-- The task that makes one call and answers what it gets. -/
def of (c : Call α) : Task Call α := call c done

/-- Runs a task to its end, every call being served on the state that the last one left. -/
def run (serve : {β : Type} → Call β → σ → β × σ) : Task Call α → σ → α × σ
  | done a, s => (a, s)
  | call c next, s => run serve (next (serve c s).1) (serve c s).2

@[simp]
theorem run_done (serve : {β : Type} → Call β → σ → β × σ) (a : α) (s : σ) :
    (done a : Task Call α).run serve s = (a, s) := rfl

@[simp]
theorem run_pure (serve : {β : Type} → Call β → σ → β × σ) (a : α) (s : σ) :
    (pure a : Task Call α).run serve s = (a, s) := rfl

@[simp]
theorem run_of (serve : {β : Type} → Call β → σ → β × σ) (c : Call α) (s : σ) :
    (of c).run serve s = serve c s := rfl

theorem run_bind (serve : {β : Type} → Call β → σ → β × σ) (t : Task Call α)
    (f : α → Task Call β) (s : σ) :
    (t >>= f).run serve s = (f (t.run serve s).1).run serve (t.run serve s).2 := by
  induction t generalizing s with
  | done a => rfl
  | call c next ih => exact ih _ _

end Task

/-- A task that may fail. -/
abbrev Attempt (Call : Type → Type) (ε α : Type) := ExceptT ε (Task Call) α

namespace Attempt

variable {Call : Type → Type} {ε δ α σ : Type}

/-- Makes one call whose answer may be a failure. -/
def of (c : Call (Except ε α)) : Attempt Call ε α := ExceptT.mk (Task.of c)

/-- The same attempt with its failures told in other words. -/
def mapError (f : ε → δ) (a : Attempt Call ε α) : Attempt Call δ α :=
  ExceptT.mk (ExceptT.run a >>= fun r => pure (r.mapError f))

/-- An attempt whose failure does not matter. -/
def ignore (a : Attempt Call ε α) : Attempt Call δ Unit :=
  ExceptT.mk (ExceptT.run a >>= fun _ => pure (.ok ()))

/-- A computation without calls. -/
def ofExcept (r : Except ε α) : Attempt Call ε α := ExceptT.mk (pure r)

def run (serve : {β : Type} → Call β → σ → β × σ) (a : Attempt Call ε α) (s : σ) :
    Except ε α × σ := Task.run serve (ExceptT.run a) s

end Attempt

end ParcelDesk
