import ParcelDesk.Database.Row

/-!
The pool of connections: the address that it may show, in which what stands between the scheme and
the last at sign is hidden, its health, and how it serves a conversation when the server's replies
are laid down beforehand. A closed pool sends nothing.
-/

namespace ParcelDesk.Database

/-- The text up to and with the first `://`, if there is one. -/
def scheme? : List Char → Option (List Char)
  | [] => none
  | ':' :: '/' :: '/' :: _ => some "://".toList
  | c :: cs => (scheme? cs).map (c :: ·)

/-- The text from its last at sign on. -/
def host (cs : List Char) : List Char :=
  '@' :: (cs.reverse.takeWhile (· ≠ '@')).reverse

def masked (cs : List Char) : List Char :=
  match scheme? cs with
  | some lead => if (cs.drop lead.length).contains '@' then lead ++ "****".toList ++ host cs else cs
  | none => cs

/-- The address with its credentials hidden. -/
def mask (url : String) : String := String.ofList (masked url.toList)

/-- How the pool of connections is doing. -/
structure PoolStatistics where
  connections : Nat
  idle : Nat
  maximum : Nat

def PoolStatistics.describe (s : PoolStatistics) : String :=
  s!"Pool Stats: {s.connections}/{s.maximum} connections ({s.idle} idle)"

/-- The server answers a simple query with the number one. -/
def isHealthy : Talk Fault Bool := do
  let row ← Talk.fetchOne ⟨"SELECT 1", []⟩
  pure (match row.first Reading.int64 with
    | .ok n => n = 1
    | .error _ => false)

/-- A pool with one connection to a server that follows a script. -/
structure Pool where
  isOpen : Bool := true
  script : List (Except ServerError Reply) := []
  sent : List Statement := []

namespace Pool

def log (p : Pool) (s : Statement) : Pool := { p with sent := p.sent ++ [s] }

/-- The next reply of the script, or that all is done. -/
def reply (p : Pool) : Except Fault Reply × Pool :=
  match p.script with
  | [] => (.ok (.done 0 0), p)
  | r :: rest => (r.mapError .refused, { p with script := rest })

/-- Serves one call. Undoing a transaction is not answered. -/
def serve : {β : Type} → Call β → Pool → β × Pool
  | _, .acquire, p => (if p.isOpen then .ok () else .error .closed, p)
  | _, .send s, p => if p.isOpen then (p.log s).reply else (.error .closed, p)
  | _, .rollback, p => ((), p.log ⟨"ROLLBACK", []⟩)

def close (p : Pool) : Pool := { p with isOpen := false }

def statistics (p : Pool) (most : Nat) : PoolStatistics :=
  if p.isOpen then ⟨1, 1, most⟩ else ⟨0, 0, most⟩

end Pool

end ParcelDesk.Database
