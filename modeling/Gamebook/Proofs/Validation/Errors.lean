import Gamebook.Proofs.Validation

/-! What each file of a corpus adds to the errors of a verdict. -/

namespace Gamebook

namespace Validation

variable {disk : Disk} {corpus : Corpus} {registry : Schema.Registry}

end Validation

namespace Validation

variable {disk : Disk} {settings : Settings} {registry : Schema.Registry} {manifest : Json}
  {messages : List String} {survey : Survey} {verdict : Verdict}

end Validation

end Gamebook
