import ShaderLoom.Diagnostics

/-!
# Journals

Several diagnostics under names of their own, which share one log.  Lines below the level of the
log are not written.
-/

namespace ShaderLoom

/-- Named diagnostics and the level of the log that they share. -/
structure Journal where
  level : Level
  books : Table Diagnostics

namespace Journal

/-- One entry into a journal. -/
inductive Entry where
  | warn (message : String)
  | error (message : String)
  /-- Takes over what is kept under another name. -/
  | extend (other : String)
  | summary (level : Level)
  /-- Sets the level of the log. -/
  | level (level : Level)

/-- What is kept under a name; nothing at first. -/
def book (journal : Journal) (name : String) : Diagnostics :=
  (journal.books.find? name).getD Diagnostics.empty

/-- Makes an entry under a name, and gives the text that it wrote to the log. -/
def record (journal : Journal) (name : String) : Entry → Journal × String
  | .warn message => keep ((journal.book name).warn message)
  | .error message => keep ((journal.book name).error message)
  | .extend other => keep ((journal.book name).extend (journal.book other), [])
  | .summary level =>
    keep (journal.book name, [(journal.book name).summary level])
  | .level level => ({ journal with level }, "")
where
  /-- Stores diagnostics under the name and writes the lines. -/
  keep (result : Diagnostics × List LogLine) : Journal × String :=
    ({ journal with books := journal.books.insert name result.1 },
      logText journal.level result.2)

end Journal

end ShaderLoom
