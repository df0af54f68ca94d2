import AppLint.Proofs.ManifestEntries
import AppLint.Proofs.StoredShape

/-! Faults in rule directories stay where they are. What is discovered is put together file by file
and rule by rule, so that a bad file or a bad rule costs nothing but its own entries. -/
namespace AppLint

namespace Discovery

end Discovery
end AppLint
