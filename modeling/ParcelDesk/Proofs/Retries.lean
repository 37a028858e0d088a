import Mathlib.Logic.Function.Iterate
import Mathlib.Tactic.ByContra
import ParcelDesk.Cache.Remote
import ParcelDesk.Proofs.Attempts

/-!
Commands that are sent again. What comes back for the commands is settled beforehand, in whatever
way, and a log notes every command and every rest. A command has one last try: the first that
succeeds, that fails for good, or that uses up the budget. The log shows the tries up to this one,
with a rest after each of the others.
-/

namespace ParcelDesk.Cache

inductive Event where
  | sent (command : List String)
  | rested (ms : UInt64)
deriving DecidableEq, Repr

def Event.command? : Event → Option (List String)
  | sent command => some command
  | rested _ => none

/-- A line to a server, with what will come back for each command, and what has been seen so far. -/
structure Line where
  replies : Nat → Except Fault Reply
  log : List Event := []

namespace Line

def serve : {β : Type} → Call β → Line → β × Line
  | _, .send command, l =>
    (l.replies 0, { replies := fun n => l.replies (n + 1), log := l.log ++ [.sent command] })
  | _, .rest ms, l => ((), { l with log := l.log ++ [.rested ms] })

def sent (l : Line) : List (List String) := l.log.filterMap Event.command?

theorem sent_send (l : Line) (command : List String) :
    (serve (.send command) l).2.sent = l.sent ++ [command] :=
  List.filterMap_append

theorem sent_rest (l : Line) (ms : UInt64) : (serve (.rest ms) l).2.sent = l.sent :=
  List.filterMap_append.trans (List.append_nil _)

/-- What comes of a try of a command whose replies are read in this way; the next try is number
0. -/
def outcome {α : Type} (l : Line) (read : Reply → Except Fault α) (n : Nat) : Except Fault α :=
  match l.replies n with
  | .ok reply => read reply
  | .error e => .error e

end Line

def doubled (ms : UInt64) : UInt64 := min (ms * 2) longestRest

def tries (command : List String) (rest : UInt64) (n : Nat) : List Event :=
  (List.range n).flatMap (fun i => [.sent command, .rested (doubled^[i] rest)]) ++ [.sent command]

theorem tries_succ (command : List String) (rest : UInt64) (n : Nat) :
    tries command rest (n + 1) =
      [.sent command, .rested rest] ++ tries command (doubled rest) n := by
  simp only [tries, List.range_succ_eq_map, List.flatMap_cons, List.flatMap_map,
    Function.iterate_succ, Function.comp_apply, Function.iterate_zero, id, List.append_assoc]

theorem commands_tries (command : List String) (rest : UInt64) (n : Nat) :
    (tries command rest n).filterMap Event.command? = List.replicate (n + 1) command := by
  induction n generalizing rest with
  | zero => rfl
  | succ n ih =>
    rw [tries_succ, List.filterMap_append, ih]
    rfl

namespace Line

def after (l : Line) (command : List String) (rest : UInt64) (n : Nat) : Line where
  replies i := l.replies (i + (n + 1))
  log := l.log ++ tries command rest n

/-- The command is sent once for each try. -/
theorem sent_after (l : Line) (command : List String) (rest : UInt64) (n : Nat) :
    (l.after command rest n).sent = l.sent ++ List.replicate (n + 1) command := by
  rw [sent, after, List.filterMap_append, commands_tries]
  rfl

def rested (l : Line) (command : List String) (rest : UInt64) : Line where
  replies i := l.replies (i + 1)
  log := l.log ++ [.sent command, .rested rest]

theorem after_rested (l : Line) (command : List String) (rest : UInt64) (n : Nat) :
    (l.rested command rest).after command (doubled rest) n = l.after command rest (n + 1) := by
  rw [after, after, tries_succ, rested, List.append_assoc]
  rfl

end Line

section LastTry

variable {α : Type} {read : Reply → Except Fault α} {l : Line}

structure LastTry (most : Nat) (l : Line) (read : Reply → Except Fault α) (n : Nat) : Prop where
  within : n < most
  passing : ∀ i < n, ∃ e, l.outcome read i = .error e ∧ e.isTransient = true
  settled : (∃ a, l.outcome read n = .ok a) ∨
    (∃ e, l.outcome read n = .error e ∧ e.isTransient = false) ∨ n + 1 = most

namespace LastTry

/-- A last try that fails for the time being has used up the budget. -/
theorem spent {most n : Nat} {e : Fault} (h : LastTry most l read n)
    (he : l.outcome read n = .error e) (htransient : e.isTransient = true) : n + 1 = most := by
  rcases h.settled with ⟨a, ha⟩ | ⟨d, hd, hfinal⟩ | hspent
  · rw [he] at ha
    cases ha
  · rw [he] at hd
    cases hd
    rw [htransient] at hfinal
    cases hfinal
  · exact hspent

theorem le {most m n : Nat} (hm : LastTry most l read m) (hn : LastTry most l read n) : n ≤ m := by
  by_contra hless
  obtain ⟨e, he, htransient⟩ := hn.passing m (by omega)
  have hspent := hm.spent he htransient
  have hwithin := hn.within
  omega

theorem unique {most m n : Nat} (hm : LastTry most l read m) (hn : LastTry most l read n) :
    m = n :=
  Nat.le_antisymm (hn.le hm) (hm.le hn)

/-- After a try that failed for the time being, the last one is still to come. -/
theorem of_rested {most n : Nat} {command : List String} {rest : UInt64} {e : Fault}
    (he : l.outcome read 0 = .error e) (htransient : e.isTransient = true)
    (h : LastTry most (l.rested command rest) read n) : LastTry (most + 1) l read (n + 1) where
  within := Nat.succ_lt_succ h.within
  passing i hi := by
    cases i with
    | zero => exact ⟨e, he, htransient⟩
    | succ i => exact h.passing i (Nat.lt_of_succ_lt_succ hi)
  settled := h.settled.imp_right (Or.imp_right (congrArg (· + 1)))

end LastTry

theorem run_ask (command : List String) (read : Reply → Except Fault α) (l : Line) :
    (Talk.ask command read).run Line.serve l =
      (l.outcome read 0, ⟨fun n => l.replies (n + 1), l.log ++ [.sent command]⟩) := by
  rw [Talk.ask, Attempt.run_bind, Attempt.run_of, Line.serve, Line.outcome]
  cases l.replies 0 <;> rfl

theorem run_persist_succ (n : Nat) (rest : UInt64) (talk : Talk α) (l : Line) :
    (persist Fault.isTransient (n + 1) rest talk).run Line.serve l =
      match talk.run Line.serve l with
      | (.ok a, m) => (.ok a, m)
      | (.error e, m) =>
        if e.isTransient then
          (persist Fault.isTransient n (doubled rest) talk).run Line.serve
            { m with log := m.log ++ [.rested rest] }
        else (.error e, m) := by
  rw [persist, Attempt.run, ExceptT.run_mk, Task.run_bind, ← Attempt.run]
  rcases talk.run Line.serve l with ⟨r, m⟩
  cases r with
  | ok a => rfl
  | error e =>
    simp only
    split <;> rfl

/-- A command that may be sent again so many times is sent up to its last try, and what comes of
this one is answered. -/
theorem run_persist (command : List String) (read : Reply → Except Fault α) (n : Nat)
    (rest : UInt64) (l : Line) :
    ∃ k, LastTry (n + 1) l read k ∧
      (persist Fault.isTransient n rest (Talk.ask command read)).run Line.serve l =
        (l.outcome read k, l.after command rest k) := by
  induction n generalizing rest l with
  | zero =>
    exact ⟨0, ⟨Nat.one_pos, by omega, .inr (.inr rfl)⟩, run_ask command read l⟩
  | succ n ih =>
    rw [run_persist_succ, run_ask]
    cases houtcome : l.outcome read 0 with
    | ok a =>
      refine ⟨0, ⟨Nat.succ_pos _, by omega, .inl ⟨a, houtcome⟩⟩, ?_⟩
      rw [houtcome]
      rfl
    | error e =>
      cases htransient : e.isTransient with
      | false =>
        refine ⟨0, ⟨Nat.succ_pos _, by omega, .inr (.inl ⟨e, houtcome, htransient⟩)⟩, ?_⟩
        rw [houtcome]
        exact if_neg (Bool.eq_false_iff.mp htransient)
      | true =>
        obtain ⟨k, hlast, hrun⟩ := ih (doubled rest) (l.rested command rest)
        refine ⟨k + 1, hlast.of_rested houtcome htransient, ?_⟩
        rw [Line.after_rested] at hrun
        refine (if_pos htransient).trans ?_
        rw [List.append_assoc]
        exact hrun

end LastTry

/-- A call sends the command up to its last try, and answers what comes of this one. -/
def Asks {α : Type} (p : Patience) (l : Line) (command : List String)
    (read : Reply → Except Fault α) (r : Except Fault α × Line) : Prop :=
  ∃ n, LastTry (max 1 p.tries) l read n ∧ r = (l.outcome read n, l.after command p.rest n)

section Asks

variable {α : Type} {p : Patience} {l : Line} {command : List String}
  {read : Reply → Except Fault α}

theorem asks_ask (p : Patience) (command : List String) (read : Reply → Except Fault α) (l : Line) :
    Asks p l command read ((p.ask command read).run Line.serve l) := by
  have hmost : p.retries + 1 = max 1 p.tries := by
    rw [Patience.retries]
    omega
  rw [Asks, ← hmost]
  exact run_persist command read p.retries p.rest l

theorem Asks.unique {r s : Except Fault α × Line} (hr : Asks p l command read r)
    (hs : Asks p l command read s) : r = s := by
  obtain ⟨m, hm, rfl⟩ := hr
  obtain ⟨n, hn, rfl⟩ := hs
  rw [hm.unique hn]

end Asks

end ParcelDesk.Cache
