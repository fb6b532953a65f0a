import Delivery.Text.Record
import Delivery.Relational.Command

/-!
# The definition of the table

Four definitions create what is missing of the schema, the table and its two indexes.
-/

namespace Delivery

def Column.definition : Column → String
  | .id => "TEXT PRIMARY KEY"
  | .messageType | .reason => "TEXT NOT NULL"
  | .payload => "BYTEA NOT NULL"
  | .errorMessage | .errorTrace | .correlationId | .causationId | .sourceQueue => "TEXT"
  | .enqueuedAt => "TIMESTAMPTZ NOT NULL"
  | .attempts => "INTEGER NOT NULL DEFAULT 0"
  | .metadata => "JSONB NOT NULL DEFAULT '" ++ Text.openBrace ++ Text.closeBrace ++ "'::jsonb"
  | .replayed => "BOOLEAN NOT NULL DEFAULT FALSE"
  | .replayedAt | .replayClaimedAt => "TIMESTAMPTZ"

inductive Definition where
  | schema
  | table
  | index (column : Column)
  deriving DecidableEq, Repr

namespace Definition

def all : List Definition := [schema, table, index .reason, index .replayed]

def indexName (t : TableName) (c : Column) : String := t.table ++ "_" ++ c.name ++ "_idx"

def columns : String :=
  ", ".intercalate ((Column.ofEntry ++ [Column.replayClaimedAt]).map fun c =>
    c.name ++ " " ++ c.definition)

def fragments (t : TableName) : Definition → List Fragment
  | schema => [.words "CREATE SCHEMA IF NOT EXISTS ", .name t.schema]
  | table =>
    .words "CREATE TABLE IF NOT EXISTS " :: t.fragments ++ [.words (" (" ++ columns ++ ")")]
  | index c =>
    [.words "CREATE INDEX IF NOT EXISTS ", .name (indexName t c), .words " ON "] ++ t.fragments ++
      [.words (" (" ++ c.name ++ ", " ++ Column.enqueuedAt.name ++ ")")]

def text (t : TableName) (d : Definition) : String := Fragment.join (d.fragments t)

end Definition

end Delivery
