import ParcelDesk.Database.Statement

/-!
The tables of the service: their columns with types, and the statements that create them.
-/

namespace ParcelDesk.Database

/-- A column as its table declares it. -/
structure Declaration where
  name : String
  type : ColumnType
  text : String

namespace Declaration

def sql (d : Declaration) : String := d.name ++ " " ++ d.text

def id : Declaration := ⟨"id", .bigint, "BIGINT NOT NULL AUTO_INCREMENT"⟩

def bigint (name : String) : Declaration := ⟨name, .bigint, "BIGINT NOT NULL"⟩

def varchar (name : String) (most : Nat) : Declaration :=
  ⟨name, .varchar, s!"VARCHAR({most}) NOT NULL"⟩

def double (name : String) : Declaration := ⟨name, .double, "DOUBLE NOT NULL"⟩

/-- Amounts that are zero unless a row says otherwise. -/
def fee (name : String) : Declaration := ⟨name, .double, "DOUBLE NOT NULL DEFAULT 0"⟩

def note (name : String) : Declaration := ⟨name, .text, "TEXT NULL"⟩

def kind (name : String) : Declaration := ⟨name, .tinyint, "TINYINT NOT NULL DEFAULT 2"⟩

def timestamp (name : String) : Declaration := ⟨name, .timestamp, "TIMESTAMP(6) NOT NULL"⟩

def createdAt : Declaration :=
  ⟨"created_at", .timestamp, "TIMESTAMP(6) NOT NULL DEFAULT CURRENT_TIMESTAMP(6)"⟩

def updatedAt : Declaration :=
  ⟨"updated_at", .timestamp, "TIMESTAMP(6) NOT NULL DEFAULT CURRENT_TIMESTAMP(6) " ++
    "ON UPDATE CURRENT_TIMESTAMP(6)"⟩

def deletedAt : Declaration := ⟨"deleted_at", .timestamp, "TIMESTAMP(6) NULL DEFAULT NULL"⟩

end Declaration

structure Table where
  name : String
  columns : List Declaration
  rules : List String

namespace Table

open Declaration (bigint varchar double fee note kind timestamp createdAt updatedAt deletedAt)

/-- The statement that creates the table unless it is there. -/
def sql (t : Table) : String :=
  "CREATE TABLE IF NOT EXISTS " ++ t.name ++ " ( " ++
    ", ".intercalate (t.columns.map Declaration.sql ++ t.rules) ++
    " ) ENGINE=InnoDB DEFAULT CHARSET=utf8mb4 COLLATE=utf8mb4_unicode_ci;"

def users : Table where
  name := "users"
  columns := [.id, varchar "user_name" 191, varchar "email" 191, varchar "password" 255, createdAt,
    updatedAt, deletedAt]
  rules := ["PRIMARY KEY (id)", "UNIQUE KEY uq_users_user_name (user_name)",
    "UNIQUE KEY uq_users_email (email)"]

def orders : Table where
  name := "orders"
  columns := [.id, bigint "store_id", ⟨"merchant_order_id", .varchar, "VARCHAR(191) NULL"⟩,
    varchar "recipient_name" 255, varchar "recipient_phone" 32,
    ⟨"recipient_address", .text, "TEXT NOT NULL"⟩, bigint "recipient_city", bigint "recipient_zone",
    bigint "recipient_area", kind "delivery_type", kind "item_type", note "special_instruction",
    note "item_description", ⟨"item_quantity", .int, "INT NOT NULL"⟩, double "item_weight",
    double "amount_to_collect", varchar "order_consignment_id" 32, fee "cod_fee", fee "delivery_fee",
    fee "total_fee", fee "promo_discount", fee "discount",
    ⟨"order_status", .varchar, "VARCHAR(32) NOT NULL DEFAULT \x27Pending\x27"⟩,
    ⟨"archived", .tinyint, "BOOLEAN NOT NULL DEFAULT FALSE"⟩, bigint "user_id", createdAt, updatedAt,
    deletedAt]
  rules := ["PRIMARY KEY (id)", "UNIQUE KEY uq_orders_consignment_id (order_consignment_id)",
    "KEY idx_orders_owner_listing (user_id, deleted_at, created_at)",
    "CONSTRAINT fk_orders_user FOREIGN KEY (user_id) REFERENCES users (id)"]

/-- Both kinds of tokens have tables of one shape. -/
def tokens (name : String) : Table where
  name := name
  columns := [.id, varchar "token" 512, bigint "user_id", timestamp "expires_at", createdAt,
    deletedAt]
  rules := ["PRIMARY KEY (id)", "KEY idx_" ++ name ++ "_user_token (user_id, token(191))",
    "CONSTRAINT fk_" ++ name ++ "_user FOREIGN KEY (user_id) REFERENCES users (id)"]

def accessTokens : Table := tokens "access_tokens"

def refreshTokens : Table := tokens "refresh_tokens"

def all : List Table := [users, orders, accessTokens, refreshTokens]

/-- The names of the columns in their order, as a statement lists them. -/
def listed (names : List String) : String := ", ".intercalate names

end Table

/-- The type of a column by its name, which is the same in every table; counts are whole numbers,
and a column that no table has is text. -/
def columnType (name : String) : ColumnType :=
  if name = "COUNT(*)" || name = "1" then .bigint
  else
    match (Table.all.flatMap Table.columns).find? fun d => d.name == name with
    | some d => d.type
    | none => .varchar

end ParcelDesk.Database
