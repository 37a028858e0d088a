import ParcelDesk.Account.Token
import ParcelDesk.Database.OrderTable

/-!
Tokens in the database, a table for each kind. Revoking reads the live rows of a user and marks them
within one transaction, so that the rows it answers are the ones it has revoked.
-/

namespace ParcelDesk.Database.TokenTable

def table : TokenKind → Table
  | .access => .accessTokens
  | .refresh => .refreshTokens

def insertColumns : List String := ["token", "user_id", "expires_at", "created_at"]

def insertParams (t : StoredToken) : List Param :=
  [.text t.token, .int t.userId, .time t.expiresAt, .time t.createdAt]

def columns : List String := "id" :: insertColumns ++ ["deleted_at"]

def ofRow (kind : TokenKind) (row : Row) : Except Failure StoredToken := do
  let id ← row.field "id" Reading.int64
  let token ← row.field "token" Reading.text
  let userId ← row.field "user_id" Reading.int64
  let expiresAt ← row.field "expires_at" Reading.time
  let createdAt ← row.field "created_at" Reading.time
  let deletedAt ← row.field "deleted_at" Reading.time.optional
  pure ⟨id, kind, token, userId, expiresAt, createdAt, deletedAt⟩

def save (t : StoredToken) : Talk Failure StoredToken := do
  let (_, lastId) ← Attempt.mapError (persistence "Failed to save token")
    (Talk.execute (insertion (table t.kind).name "" insertColumns (insertParams t)))
  pure { t with id := signedId lastId }

/-- The query for the rows of a kind. -/
def selection (kind : TokenKind) (rest : String) (params : List Param) : Statement :=
  ⟨"SELECT " ++ Table.listed columns ++ " FROM " ++ (table kind).name ++ " WHERE user_id = ? AND " ++
    rest, params⟩

/-- The row of a token that is neither revoked nor expired. -/
def findActive (now : Instant) (kind : TokenKind) (userId : Int) (token : String) :
    Talk Failure (Option StoredToken) := do
  let row ← Attempt.mapError (persistence "Failed to find token") <| Talk.fetchOptional <|
    selection kind "token = ? AND deleted_at IS NULL AND expires_at > ? LIMIT 1"
      [.int userId, .text token, .time now]
  Attempt.ofExcept (row.mapM (ofRow kind))

/-- Revokes all live tokens of a user, and answers their rows as they were. -/
def revokeAll (now : Instant) (kind : TokenKind) (userId : Int) :
    Talk Failure (List StoredToken) :=
  Talk.transaction (persistence "Failed to begin revocation")
      (persistence "Failed to commit revocation") do
    let rows ← Attempt.mapError (persistence "Failed to load tokens for revocation") <|
      Talk.fetchAll (selection kind "deleted_at IS NULL FOR UPDATE" [.int userId])
    let revoked ← Attempt.ofExcept (rows.mapM (ofRow kind))
    let _ ← Attempt.mapError (persistence "Failed to revoke tokens") <| Talk.execute
      ⟨"UPDATE " ++ (table kind).name ++ " SET deleted_at = ? WHERE user_id = ? AND deleted_at IS NULL",
        [.time now, .int userId]⟩
    pure revoked

end ParcelDesk.Database.TokenTable
