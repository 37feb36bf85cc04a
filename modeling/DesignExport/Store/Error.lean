/-
# Refusals of the store

An operation is refused when there is no connection, when its table has not
been made, when an integer does not fit a column, or when a row would break a
key. The checks are made in this order.
-/

import DesignExport.Text.Basic

namespace DesignExport

/-- The tables of the store. -/
inductive TableName where
  | jobs
  | components
deriving DecidableEq

/-- The name of a table in messages. -/
def TableName.text : TableName → Text
  | jobs => "processing_jobs"
  | components => "generated_components"

/-- Why the store refuses an operation. -/
inductive StoreError where
  | notConnected
  | noTable (table : TableName)
  | integerTooLarge
  | duplicateId (table : TableName)
  | missingJob
deriving DecidableEq

/-- The message of a refusal. -/
def StoreError.message : StoreError → Text
  | notConnected => "Database ':memory:' is not connected"
  | noTable table => "no such table: " ++ table.text
  | integerTooLarge => "Python int too large to convert to SQLite INTEGER"
  | duplicateId table => "UNIQUE constraint failed: " ++ table.text ++ ".id"
  | missingJob => "FOREIGN KEY constraint failed"

end DesignExport
