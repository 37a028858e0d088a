import ParcelDesk.Account.Token
import ParcelDesk.Failure

/-!
The store of issued tokens in memory. Rows are never taken out; a revoked token only gets a time of
deletion.
-/

namespace ParcelDesk

structure TokenStore where
  rows : List StoredToken := []
  lastId : Nat := 0
  isDown : Bool := false

namespace TokenStore

def outage : Failure := .persistence "token store unavailable"

/-- Adds a row under the next id. -/
def save (s : TokenStore) (t : StoredToken) : Except Failure StoredToken × TokenStore :=
  if s.isDown then (.error outage, s)
  else
    let row := { t with id := s.lastId + 1 }
    (.ok row, { s with rows := s.rows ++ [row], lastId := s.lastId + 1 })

/-- The row for a token of a user that neither has been revoked nor has expired. -/
def findActive (s : TokenStore) (now : Instant) (kind : TokenKind) (userId : Int)
    (token : String) : Except Failure (Option StoredToken) :=
  if s.isDown then .error outage
  else .ok (s.rows.find? fun t =>
    t.kind = kind && t.userId == userId && t.token == token && t.isActive now)

/-- The row is a token of the user that can still be revoked. -/
def isOpen (kind : TokenKind) (userId : Int) (t : StoredToken) : Bool :=
  t.kind = kind && t.userId == userId && !t.isRevoked

/-- Revokes all tokens of one kind that a user has, and answers them as they were. -/
def revokeAll (s : TokenStore) (now : Instant) (kind : TokenKind) (userId : Int) :
    Except Failure (List StoredToken) × TokenStore :=
  if s.isDown then (.error outage, s)
  else
    (.ok (s.rows.filter (isOpen kind userId)),
      { s with
        rows := s.rows.map fun t =>
          if isOpen kind userId t then { t with deletedAt := some now } else t })

def ofKind (s : TokenStore) (kind : TokenKind) : List StoredToken :=
  s.rows.filter fun t => t.kind = kind

end TokenStore

end ParcelDesk
