/-
Lookups as scripts: what a lookup asks of the world around it, one call after the other,
each depending on the answers before it.

A script says nothing about who answers. A host answers the calls, in any way it likes,
and a run of a script records them in order.
-/

import RuntimeLocator.Registry.Failure
import RuntimeLocator.Registry.Hive
import RuntimeLocator.Registry.Value

namespace RuntimeLocator

/-- A call on the world around a lookup. At most one key is open at a time. -/
inductive Call where
  /-- Asks for a variable of the environment. -/
  | getVariable (name : String)
  /-- Asks the store to open a key. -/
  | openKey (hive : Hive) (path : String)
  /-- Asks the open key for a value of at most so many bytes. -/
  | query (name : String) (maxBytes : UInt32)
  /-- Releases the open key. -/
  | close
deriving DecidableEq

/-- What a call is answered with. -/
def Call.Reply : Call → Type
  | .getVariable _ => Option String
  | .openKey _ _ => Except StoreFailure Unit
  | .query _ _ => Except StoreFailure Value
  | .close => Unit

/-- A lookup that ends with an answer, or that makes a call and goes on by its reply. -/
inductive Script (α : Type) where
  | done (answer : α)
  | call (call : Call) (next : call.Reply → Script α)

namespace Script

variable {α β σ : Type}

protected def bind : Script α → (α → Script β) → Script β
  | .done a, f => f a
  | .call c next, f => .call c fun reply => (next reply).bind f

instance : Monad Script where
  pure := .done
  bind := Script.bind

/-- Makes one call. -/
def ask (c : Call) : Script c.Reply :=
  .call c .done

/-- A variable of the environment; an empty one counts as not set. -/
def nonEmptyVariable (name : String) : Script (Option String) :=
  .call (.getVariable name) fun value => .done (Option.filter (· ≠ "") value)

/-- One who answers calls; the state is whatever it remembers. -/
structure Host (σ : Type) where
  reply : (c : Call) → σ → c.Reply × σ

/-- What a script came to: its answer, the calls it made, and the state of the host. -/
structure Run (α σ : Type) where
  answer : α
  calls : List Call
  state : σ

/-- Runs a script with a host. -/
def run (host : Host σ) : Script α → σ → Run α σ
  | .done a, state => ⟨a, [], state⟩
  | .call c next, state =>
    let replied := host.reply c state
    let rest := (next replied.1).run host replied.2
    { rest with calls := c :: rest.calls }

end Script

end RuntimeLocator
