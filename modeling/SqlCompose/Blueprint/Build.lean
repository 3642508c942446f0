import SqlCompose.Blueprint.Basic

/-!
# Building blueprints

Steps that each change one part of a blueprint: columns and commands are added at the end, options
are replaced.
-/
namespace SqlCompose.Blueprint

def ofTable (table : String) : Blueprint := { table := table }

def addColumn (b : Blueprint) (c : Column) : Blueprint := { b with columns := b.columns ++ [c] }

def addCommand (b : Blueprint) (c : Command) : Blueprint := { b with commands := b.commands ++ [c] }

/-- A blueprint that creates its table. -/
def createTable (table : String) : Blueprint := (ofTable table).addCommand (.create false)

def withCharset (b : Blueprint) (s : String) : Blueprint := { b with charset := some s }

def withCollation (b : Blueprint) (s : String) : Blueprint := { b with collation := some s }

def withEngine (b : Blueprint) (s : String) : Blueprint := { b with engine := some s }

def makeTemporary (b : Blueprint) : Blueprint := { b with temporary := true }

end SqlCompose.Blueprint
