import LayeredStore.Database

/-!
# `LayeredStore.Command`: the operations as data

Everything that users can do to change a database, as values, so that a
run of a database is a list of them.

* `Command.run` carries a command out, and `Reply` is what it answers.
* `World.runAll` is where a list of commands leads.
-/

set_option autoImplicit false

namespace LayeredStore

/-- What users can do to change a database. -/
inductive Command where
  /-- Register a table over a store. -/
  | addTable (name root : String)
  /-- Open a session, of its own layer even if the database is disabled
  when it is forced. -/
  | openSession (force : Bool)
  /-- Resolve a session as successful. -/
  | commitSession (session : Session)
  /-- Resolve a session as failed. -/
  | revokeSession (session : Session)
  /-- Let go of a session. -/
  | dropSession (session : Session)
  /-- Commit the newest session that is open. -/
  | commit
  /-- Discard the newest level. -/
  | revoke
  /-- Move the pending layers and the oldest live one into the roots. -/
  | merge
  /-- Discard the newest levels. -/
  | popMany (count : Nat) (verify : Bool)
  /-- Make sessions that can be rolled back. -/
  | enable
  /-- Make sessions that write straight into the roots. -/
  | disable
  /-- Choose where reads are served from. -/
  | setCursor (cursor : Cursor) (offset : Nat)
  /-- Limit the live layers. -/
  | setMaxSize (limit : Nat)
  /-- Limit the pending layers. -/
  | setMaxFlushCount (limit : Nat)
  /-- Complete an interrupted flush and check the chains. -/
  | check
  /-- Stop for good. -/
  | shutdown
  /-- Write an entry to a table. -/
  | write (table : Table) (key : Bytes) (entry : Entry)
  deriving DecidableEq, Repr

/-- What a command answers. -/
inductive Reply where
  /-- Nothing but that it succeeded. -/
  | done
  /-- The table registered. -/
  | table (table : Table)
  /-- The session opened. -/
  | session (session : Session)
  /-- What a check found. -/
  | report (report : CheckReport)
  deriving DecidableEq, Repr

namespace Command

/-- Carries a command out. -/
def run : Command → Operation Reply
  | addTable name root => return .table (← Database.addTable name root)
  | openSession force => return .session (← Database.openSession force)
  | commitSession session => do session.commit; return .done
  | revokeSession session => do session.revoke; return .done
  | dropSession session => do session.drop; return .done
  | commit => do Database.commit; return .done
  | revoke => do Database.revoke; return .done
  | merge => do Database.merge; return .done
  | popMany count verify => do Database.popMany count verify; return .done
  | enable => do Database.enable; return .done
  | disable => do Database.disable; return .done
  | setCursor cursor offset => do Database.setCursor cursor offset; return .done
  | setMaxSize limit => do Database.setMaxSize limit; return .done
  | setMaxFlushCount limit => do Database.setMaxFlushCount limit; return .done
  | check => return .report (← Database.check)
  | shutdown => do Database.shutdown; return .done
  | write table key entry => do table.write key entry; return .done

end Command

/-- The world after a list of commands, whatever they answer. -/
def World.runAll (w : World) (commands : List Command) : World :=
  commands.foldl (fun w command => (command.run.perform w).2) w

end LayeredStore
