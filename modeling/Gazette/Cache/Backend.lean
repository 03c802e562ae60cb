import Gazette.Cache.Error
import Gazette.Task
import Gazette.Text.Utf8

/-!
# Cache backends

A backend keeps payloads under keys.  Every operation may fail, and a caller has to expect
any answer.  The answer of a read may be under way for some turns, during which others run.
-/

set_option autoImplicit false

namespace Gazette

/-- A length of time in nanoseconds. -/
abbrev Duration := Nat

/-- One thousandth of a second. -/
def Duration.milli : Duration := 1000000

/-- One second. -/
def Duration.second : Duration := 1000000000

/-- The operations of a backend with the given states. -/
structure Backend (β : Type) where
  get : String → Task β (Except CacheError (Option Payload))
  set : String → Payload → Option Duration → Task β (Except CacheError Unit)
  contains : String → Task β (Except CacheError Bool)
  delete : String → Task β (Except CacheError Unit)
  latency : β → Nat := fun _ => 0

end Gazette
