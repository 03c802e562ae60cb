/-!
# Cache errors

What can go wrong between a caller and a cache.
-/

set_option autoImplicit false

namespace Gazette

/-- A failure of a cache operation. -/
inductive CacheError where
  | invalidKey
  | miss
  | invalidValue (text : String)
  | connectionFailed (text : String)
  | operationFailed (text : String)
  | serialization (text : String)
  deriving DecidableEq

/-- The wording of a cache error. -/
def CacheError.message : CacheError → String
  | .invalidKey => "Invalid cache key"
  | .miss => "Cache miss"
  | .invalidValue text => "Invalid cache value: " ++ text
  | .connectionFailed text => "Cache connection failed: " ++ text
  | .operationFailed text => "Cache operation failed: " ++ text
  | .serialization text => "Serialization error: " ++ text

end Gazette
