import Screener.Indicator.Registry
import Screener.Text.Quoted

/-!
# Summary of a registry

The names of a registry in one line, for messages to whoever assembles one.
-/

namespace Screener

/-- The names in ascending order, quoted. -/
def Registry.summary (registry : Registry) : String :=
  "IndicatorRegistry \x7b names: [" ++ ", ".intercalate (registry.names.map Text.quoted) ++ "] \x7d"

end Screener
