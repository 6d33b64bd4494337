import EditBatch.Command.Basic
import EditBatch.Item.Id
import EditBatch.Wiki.Label

/-! A batch as QuickStatements, version 1, to be run elsewhere.

Rows are joined by `||` and their cells by `|`. `LAST` is the item of the latest `CREATE`.
-/

set_option autoImplicit false

namespace EditBatch.QuickStatements

def rowSeparator : String := "||"

def inQuotes (text : String) : String := "\x22" ++ text ++ "\x22"

/-- A creation gets its page linked; on a Wikipedia also the label without disambiguation. -/
def ofCreation (wiki page : String) : String :=
  let creation := "CREATE||LAST|S" ++ wiki ++ "|" ++ inQuotes page
  match Wiki.wikipediaLanguage? wiki with
  | some language =>
    creation ++ "||LAST|L" ++ language ++ "|" ++ inQuotes (Wiki.stripDisambiguation page)
  | none => creation

def ofStatement (command : Command) : String :=
  let sign := if command.mode = .delete then "-" else ""
  let item := if Item.isPlaceholder command.entityRef then "LAST" else command.entityRef
  let edit := sign ++ item ++ "|" ++ command.prop
  match command.value with
  | some value => edit ++ "|" ++ value
  | none => edit

def ofCommand (wiki : String) (command : Command) : String :=
  if command.mode = .create then ofCreation wiki command.page else ofStatement command

def ofCommands (wiki : String) (commands : List Command) : String :=
  rowSeparator.intercalate (commands.map (ofCommand wiki))

end EditBatch.QuickStatements
