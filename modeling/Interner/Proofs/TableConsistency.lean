import Interner.Proofs.TableSteps
import Mathlib.Data.List.Nodup

namespace Interner

open Session

namespace InternTable

end InternTable

end Interner
