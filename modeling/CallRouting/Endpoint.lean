import CallRouting.Dict
import CallRouting.Text.Blank
import CallRouting.Text.Number

/-!
# Endpoints and calls

An `Endpoint` is one instance of a service that a call may be sent to; a `Call` is what is known of
the caller. Conditions see both through `lookup`, which answers a key with a text or with nothing.

* `Endpoint.lookup` : the keys `host`, `port`, `address` and `id` are built in, every other key is
  an attribute;
* `argumentIndex?` : the position that a key of the form `arguments[N]` names;
* `Call.lookup` : `host` and `method` are built in, `arguments[N]` is the `N`-th argument, and every
  other key is an attribute.
-/

namespace CallRouting

abbrev Attributes := Dict String

structure Endpoint where
  id : String
  host : String
  port : UInt16 := 0
  attributes : Attributes := .empty
deriving DecidableEq

/-- What a call can choose from, in order of preference. -/
abbrev Pool := List Endpoint

namespace Endpoint

def address (e : Endpoint) : String := e.host ++ ":" ++ toString e.port.toNat

def lookup (e : Endpoint) (key : String) : Option String :=
  if key = "host" then some e.host
  else if key = "port" then some (toString e.port.toNat)
  else if key = "address" then some e.address
  else if key = "id" then some e.id
  else e.attributes.get? key

end Endpoint

structure Call where
  host : Option String := none
  method : Option String := none
  arguments : List String := []
  attributes : Attributes := .empty
deriving DecidableEq

/-- How the key of a positional argument begins. -/
def argumentsStart : List Char := "arguments[".toList

/-- The position named by `arguments[N]`;
blanks around `N` and a plus sign before it are allowed. -/
def argumentIndex? (key : String) : Option Nat := do
  let index ← argumentsStart.isPrefixOf? key.toList
  match index.getLast? with
  | some ']' => Text.natBelow? UInt64.size (Text.trim index.dropLast)
  | _ => none

def Call.lookup (c : Call) (key : String) : Option String :=
  if key = "host" then c.host
  else if key = "method" then c.method
  else match argumentIndex? key with
    | some n => c.arguments[n]?
    | none => c.attributes.get? key

end CallRouting
