import ParcelDesk.Task

/-!
Running attempts. A run of several calls is taken apart one call at a time: the state goes through
them in order, and the first failure ends the attempt where it stands. A property of states that
every call of a kind keeps is kept by any attempt that makes only such calls.
-/

namespace ParcelDesk

namespace Task

variable {Call : Type → Type} {α β σ : Type}

def Makes (kind : {β : Type} → Call β → Prop) : Task Call α → Prop
  | done _ => True
  | call c next => kind c ∧ ∀ b, Makes kind (next b)

variable {kind : {β : Type} → Call β → Prop}

theorem Makes.bind {t : Task Call α} {f : α → Task Call β} (ht : t.Makes kind)
    (hf : ∀ a, (f a).Makes kind) : (t >>= f).Makes kind := by
  induction t with
  | done a => exact hf a
  | call c next ih => exact ⟨ht.1, fun b => ih b (ht.2 b)⟩

theorem makes_of {c : Call α} (h : kind c) : (Task.of c).Makes kind := ⟨h, fun _ => trivial⟩

/-- A relation that each call keeps to the state before it holds over the whole run. -/
theorem Makes.run {serve : {β : Type} → Call β → σ → β × σ} {R : σ → σ → Prop}
    (refl : ∀ s, R s s) (trans : ∀ {s₁ s₂ s₃}, R s₁ s₂ → R s₂ s₃ → R s₁ s₃)
    (step : ∀ {β : Type} (c : Call β) (s : σ), kind c → R s (serve c s).2)
    {t : Task Call α} (ht : t.Makes kind) (s : σ) : R s (t.run serve s).2 := by
  induction t generalizing s with
  | done a => exact refl s
  | call c next ih => exact trans (step c s ht.1) (ih _ (ht.2 _) _)

end Task

namespace Attempt

variable {Call : Type → Type} {ε δ α β σ : Type} (serve : {β : Type} → Call β → σ → β × σ)

@[simp]
theorem run_pure (a : α) (s : σ) : run serve (pure a : Attempt Call ε α) s = (.ok a, s) := rfl

@[simp]
theorem run_of (c : Call (Except ε α)) (s : σ) : run serve (of c) s = serve c s := rfl

theorem run_bind (a : Attempt Call ε α) (f : α → Attempt Call ε β) (s : σ) :
    run serve (a >>= f) s =
      match run serve a s with
      | (.ok x, t) => run serve (f x) t
      | (.error e, t) => (.error e, t) := by
  have h := Task.run_bind serve (ExceptT.run a) (ExceptT.bindCont f) s
  change Task.run serve (ExceptT.run a >>= ExceptT.bindCont f) s = _
  rw [h]
  cases hr : Task.run serve (ExceptT.run a) s with
  | mk r t =>
    have hrun : run serve a s = (r, t) := hr
    cases r with
    | ok x => rw [hrun]; rfl
    | error e => rw [hrun]; rfl

@[simp]
theorem run_ignore (a : Attempt Call ε α) (s : σ) :
    run serve (ignore a : Attempt Call δ Unit) s = (.ok (), (run serve a s).2) := by
  have h := Task.run_bind serve (ExceptT.run a) (fun _ => pure (.ok () : Except δ Unit)) s
  change Task.run serve (ExceptT.run a >>= fun _ => pure (.ok () : Except δ Unit)) s = _
  rw [h]
  rfl

theorem run_mapError (f : ε → δ) (a : Attempt Call ε α) (s : σ) :
    run serve (mapError f a) s = ((run serve a s).1.mapError f, (run serve a s).2) := by
  have h := Task.run_bind serve (ExceptT.run a) (fun r => pure (r.mapError f)) s
  change Task.run serve (ExceptT.run a >>= fun r => pure (r.mapError f)) s = _
  rw [h]
  rfl

@[simp]
theorem run_ofExcept (r : Except ε α) (s : σ) :
    run serve (ofExcept r : Attempt Call ε α) s = (r, s) := rfl

def Makes (kind : {β : Type} → Call β → Prop) (a : Attempt Call ε α) : Prop :=
  Task.Makes kind (ExceptT.run a)

variable {kind : {β : Type} → Call β → Prop}

theorem makes_pure (a : α) : (pure a : Attempt Call ε α).Makes kind := trivial

theorem makes_throw (e : ε) : (throw e : Attempt Call ε α).Makes kind := trivial

theorem makes_ofExcept (r : Except ε α) : (ofExcept r : Attempt Call ε α).Makes kind := trivial

theorem makes_of {c : Call (Except ε α)} (h : kind c) : (of c).Makes kind := Task.makes_of h

theorem Makes.bind {a : Attempt Call ε α} {f : α → Attempt Call ε β} (ha : a.Makes kind)
    (hf : ∀ x, (f x).Makes kind) : (a >>= f).Makes kind := by
  refine Task.Makes.bind ha fun r => ?_
  cases r with
  | ok x => exact hf x
  | error e => trivial

theorem Makes.ignore {a : Attempt Call ε α} (ha : a.Makes kind) :
    (Attempt.ignore a : Attempt Call δ Unit).Makes kind :=
  Task.Makes.bind ha fun _ => trivial

end Attempt

end ParcelDesk
